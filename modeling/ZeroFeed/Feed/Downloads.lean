import ZeroFeed.Feed.Transfer

/-!
# Where received files go (`TagFileStart` in `pkg/feed/subscriber.go`)

The publisher names the file.  `filepath.Base` reduces the name to its last
element, two of its degenerate results are replaced, and `filepath.Join` cleans
what comes out.
-/

namespace ZeroFeed.Downloads

open ZeroFeed.ByteString
open ZeroFeed.Messages
open ZeroFeed.Cipher
open ZeroFeed.Transfer
open ZeroFeed.Text (slash)

/-- The name a received file gets. -/
def cleanName (filename : Bytes) : Bytes :=
  if base filename = dot ∨ base filename = [slash] then ascii "received_file" else base filename

/-- The path passed to `os.Create`. -/
def outPath (filename : Bytes) : Bytes := join downloads (cleanName filename)

/-- `TagFileStart` creates its file there. -/
theorem fileStart_eq {host : Host} (desk : Desk host) (data : Bytes) :
    desk.fileStart data =
      match host.unmarshalHeader data with
      | none => desk
      | some header =>
          if header.transferID = [] then desk
          else
            match host.create (host.mkdirAll desk.disk downloads) (outPath header.filename) with
            | none => { desk with disk := host.mkdirAll desk.disk downloads }
            | some (disk, file) =>
                (({ desk with disk := disk }).insert header.transferID
                  ⟨file, cleanName header.filename, 0, 0, header⟩).report
                    (.incoming (cleanName header.filename) (outPath header.filename)
                      header.fileSize) := rfl

/-! ## Paths -/

theorem elements_ne_nil (path : Bytes) : elements path ≠ [] := by
  cases path with
  | nil => exact List.cons_ne_nil _ _
  | cons byte rest =>
      rw [elements]
      split
      · exact List.cons_ne_nil _ _
      · split <;> exact List.cons_ne_nil _ _

theorem elements_append_slash (path rest : Bytes) :
    elements (path ++ slash :: rest) = elements path ++ elements rest := by
  induction path with
  | nil => simp [elements]
  | cons byte path ih =>
      rw [List.cons_append, elements, elements, ih]
      split
      · rfl
      · obtain ⟨element, others, helements⟩ := List.exists_cons_of_ne_nil (elements_ne_nil path)
        rw [helements]
        rfl

theorem elements_of_notMem {name : Bytes} (hname : slash ∉ name) : elements name = [name] := by
  induction name with
  | nil => rfl
  | cons byte name ih =>
      rw [List.mem_cons, not_or] at hname
      rw [elements, if_neg (Ne.symm hname.1), ih hname.2]

/-- Joining a name to the directory resolves that one name. -/
theorem join_downloads {name : Bytes} (hname : slash ∉ name) (hnonempty : name ≠ [])
    (hdot : name ≠ dot) : join downloads name =
      if name = dotDot then dot else ascii "downloads" ++ [slash] ++ name := by
  have hdirectory : elements downloads = [dot, ascii "downloads"] := by decide +kernel
  have helements : elements (downloads ++ [slash] ++ name) = [dot, ascii "downloads", name] := by
    rw [List.append_assoc, List.singleton_append, elements_append_slash, hdirectory,
      elements_of_notMem hname]
    rfl
  have hhead : downloads.head? = some 0x2E := by decide +kernel
  have hrooted : (downloads ++ [slash] ++ name).head? ≠ some slash := by
    rw [List.append_assoc, List.head?_append, hhead, Option.some_or]
    decide
  have hdirectoryKept : [dot, ascii "downloads"].foldl (cleanElement false) [] =
      [ascii "downloads"] := by decide +kernel
  have hkept : [dot, ascii "downloads", name].foldl (cleanElement false) [] =
      if name = dotDot then [] else [name, ascii "downloads"] := by
    have hproper : ascii "downloads" ≠ dotDot := by decide +kernel
    change cleanElement false ([dot, ascii "downloads"].foldl (cleanElement false) []) name = _
    rw [hdirectoryKept, cleanElement, if_neg (not_or.mpr ⟨hnonempty, hdot⟩)]
    simp only [if_neg hproper]
  rw [join, clean, helements, decide_eq_false hrooted, hkept]
  by_cases hparent : name = dotDot
  · simp [hparent]
  · have hdownloads : ascii "downloads" ≠ [] := by decide +kernel
    simp [hparent, hdownloads, List.intercalate]

theorem base_ne_nil (path : Bytes) : base path ≠ [] := by
  rw [base]
  split
  · exact List.cons_ne_nil _ _
  · dsimp only
    split
    · exact List.cons_ne_nil _ _
    · assumption

/-- The last element has no slash in it, unless the path is nothing but slashes. -/
theorem slash_notMem_base {path : Bytes} (hslash : base path ≠ [slash]) : slash ∉ base path := by
  rw [base] at hslash ⊢
  split
  · decide
  · rename_i hpath
    rw [if_neg hpath] at hslash
    dsimp only at hslash ⊢
    split
    · rename_i hlast
      exact absurd (if_pos hlast) hslash
    · intro hmem
      have hother := List.mem_takeWhile_imp (List.mem_reverse.mp hmem)
      simp at hother

theorem cleanName_proper (filename : Bytes) :
    slash ∉ cleanName filename ∧ cleanName filename ≠ [] ∧ cleanName filename ≠ dot := by
  rw [cleanName]
  split
  · decide +kernel
  · rename_i hbase
    rw [not_or] at hbase
    exact ⟨slash_notMem_base hbase.2, base_ne_nil filename, hbase.1⟩

theorem outPath_eq (filename : Bytes) : outPath filename =
    if cleanName filename = dotDot then dot
    else ascii "downloads" ++ [slash] ++ cleanName filename := by
  obtain ⟨hslash, hnonempty, hdot⟩ := cleanName_proper filename
  exact join_downloads hslash hnonempty hdot

theorem cleanName_eq_dotDot_iff (filename : Bytes) :
    cleanName filename = dotDot ↔ base filename = dotDot := by
  rw [cleanName]
  split
  · rename_i hbase
    constructor
    · intro heq
      exact absurd heq (by decide +kernel)
    · intro heq
      rw [heq] at hbase
      exact absurd hbase (by decide)
  · exact Iff.rfl

/-- The directory followed by exactly one element, which is a name. -/
def DirectChild (path : Bytes) : Prop :=
  ∃ name, path = clean downloads ++ [slash] ++ name ∧ name ≠ [] ∧ name ≠ dot ∧ name ≠ dotDot ∧
    slash ∉ name

theorem not_directChild_dot : ¬ DirectChild dot := by
  rintro ⟨name, hpath, -⟩
  have hlength := congrArg List.length hpath
  have hdirectory : (clean downloads).length = 9 := by decide +kernel
  rw [List.length_append, List.length_append, hdirectory] at hlength
  simp only [dot, List.length_singleton] at hlength
  omega

/-- The file is created directly in the download directory exactly if the last
element of the name sent is not the parent directory. -/
theorem outPath_directChild_iff (filename : Bytes) :
    DirectChild (outPath filename) ↔ base filename ≠ dotDot := by
  have hdirectory : clean downloads = ascii "downloads" := by decide +kernel
  obtain ⟨hslash, hnonempty, hdot⟩ := cleanName_proper filename
  rw [outPath_eq, ne_eq, ← cleanName_eq_dotDot_iff]
  split
  · rename_i hparent
    exact iff_of_false not_directChild_dot (not_not.mpr hparent)
  · rename_i hparent
    refine iff_of_true ?_ hparent
    exact ⟨cleanName filename, by rw [hdirectory], hnonempty, hdot, hparent, hslash⟩

/-- The name `..` leads to the working directory itself. -/
theorem outPath_parent :
    outPath (ascii "..") = ascii "." ∧ ¬ DirectChild (outPath (ascii "..")) := by
  have hpath : outPath (ascii "..") = dot := by decide +kernel
  have hdot : ascii "." = dot := by decide +kernel
  rw [hpath, hdot]
  exact ⟨rfl, not_directChild_dot⟩

end ZeroFeed.Downloads
