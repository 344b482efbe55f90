import ZeroFeed.Core.FileSystem
import ZeroFeed.Feed.Downloads
import ZeroFeed.Feed.SendFile

/-!
# Reassembly of file transfers

Any number of files on their way at once, their messages interleaved with each
other and with text.  The invariant follows every transfer on its own: announced
or not, so far received, or finished.  A message of one transfer moves that
transfer on and touches nothing that belongs to another, because transfers differ
in their identifier, their path and their open handle.
-/

namespace ZeroFeed.Reassembly

open ZeroFeed.ByteString
open ZeroFeed.Messages
open ZeroFeed.Primitives
open ZeroFeed.Cipher
open ZeroFeed.FileSystem
open ZeroFeed.Transfer
open ZeroFeed.Text (slash)
open ZeroFeed.Downloads
open ZeroFeed.SendFile

/-! ## The subscriber's table -/

theorem lookup_filter_ne {host : Host} (entries : List (Bytes × ActiveFile host))
    (deleted transferID : Bytes) :
    (entries.filter fun entry => entry.1 ≠ deleted).lookup transferID =
      if transferID = deleted then none else entries.lookup transferID := by
  induction entries with
  | nil => simp
  | cons entry entries ih =>
      obtain ⟨key, active⟩ := entry
      by_cases hkey : key = deleted
      · subst hkey
        rw [List.filter_cons_of_neg (by simp), ih, List.lookup_cons]
        by_cases hsame : transferID = key
        · simp [hsame]
        · simp [hsame, beq_eq_false_iff_ne.mpr hsame]
      · rw [List.filter_cons_of_pos (by simpa using hkey), List.lookup_cons, List.lookup_cons, ih]
        by_cases hsame : transferID = key
        · simp [hsame, hkey]
        · simp [beq_eq_false_iff_ne.mpr hsame]

section Table

variable {host : Host} (desk : Desk host)

theorem lookup_delete (deleted transferID : Bytes) :
    (desk.delete deleted).lookup transferID =
      if transferID = deleted then none else desk.lookup transferID :=
  lookup_filter_ne desk.activeFiles deleted transferID

theorem lookup_insert (inserted transferID : Bytes) (active : ActiveFile host) :
    (desk.insert inserted active).lookup transferID =
      if transferID = inserted then some active else desk.lookup transferID := by
  rw [Desk.insert, Desk.lookup, List.lookup_cons]
  by_cases hsame : transferID = inserted
  · simp [hsame]
  · have hdelete := lookup_delete desk inserted transferID
    rw [if_neg hsame] at hdelete ⊢
    rw [beq_eq_false_iff_ne.mpr hsame]
    exact hdelete

theorem activeFiles_eq_nil (hnone : ∀ transferID, desk.lookup transferID = none) :
    desk.activeFiles = [] := by
  cases hentries : desk.activeFiles with
  | nil => rfl
  | cons entry entries =>
      have hentry := hnone entry.1
      rw [Desk.lookup, hentries, List.lookup_cons, beq_self_eq_true] at hentry
      cases hentry

end Table

/-- The file a report is about. -/
def reportName : Report → Bytes
  | .incoming filename _ _ => filename
  | .checksumMismatch filename _ _ => filename
  | .verified filename _ _ => filename
  | .saved filename _ => filename

def reportsOn {host : Host} (desk : Desk host) (filename : Bytes) : List Report :=
  desk.reports.filter fun entry => reportName entry = filename

section Reports

variable {host : Host} {desk desk' : Desk host} {entry : Report}
variable (hadded : desk'.reports = desk.reports ++ [entry])
include hadded

theorem reportsOn_own :
    reportsOn desk' (reportName entry) = reportsOn desk (reportName entry) ++ [entry] := by
  rw [reportsOn, hadded, List.filter_append, reportsOn]
  simp

theorem reportsOn_other {filename : Bytes} (hother : filename ≠ reportName entry) :
    reportsOn desk' filename = reportsOn desk filename := by
  rw [reportsOn, hadded, List.filter_append, reportsOn]
  simp [Ne.symm hother]

end Reports

/-! ## Names and identifiers -/

theorem length_hexString (bytes : Bytes) : (hexString bytes).length = 2 * bytes.length := by
  rw [hexString, List.length_flatMap]
  induction bytes with
  | nil => rfl
  | cons byte bytes ih =>
      simp only [List.map_cons, List.sum_cons, List.length_cons, List.length_nil] at ih ⊢
      omega

theorem length_transferID (source : Source) : source.transferID.length = transferIDSize := by
  rw [Source.transferID, length_hexString, source.randomBytes.property]
  rfl

theorem base_eq_self {name : Bytes} (hslash : slash ∉ name) (hnonempty : name ≠ []) :
    base name = name := by
  have hreverse : slash ∉ name.reverse := fun hmem => hslash (List.mem_reverse.mp hmem)
  have hdrop : name.reverse.dropWhile (fun byte => byte = slash) = name.reverse := by
    rw [List.dropWhile_eq_self_iff]
    intro hpos hfirst
    apply hreverse
    rw [← of_decide_eq_true hfirst]
    exact List.getElem_mem hpos
  have htake : name.reverse.takeWhile (fun byte => byte ≠ slash) = name.reverse := by
    rw [List.takeWhile_eq_self_iff]
    intro byte hbyte
    have hne : byte ≠ slash := fun heq => hreverse (heq ▸ hbyte)
    simpa using hne
  rw [base, if_neg hnonempty, hdrop]
  dsimp only
  rw [List.reverse_reverse, htake, List.reverse_reverse, if_neg hnonempty]

/-- The receiver finds the name that was sent. -/
theorem cleanName_header (suite : Suite) (transfer : Transfer) :
    cleanName (transfer.header suite).filename = base transfer.filePath := by
  obtain ⟨hdot, hslash⟩ := transfer.hnamed
  have hbase : base (base transfer.filePath) = base transfer.filePath :=
    base_eq_self (slash_notMem_base hslash) (base_ne_nil _)
  change cleanName (base transfer.filePath) = base transfer.filePath
  rw [cleanName, hbase, if_neg (not_or.mpr ⟨hdot, hslash⟩)]

theorem cleanName_eq_of_outPath_eq {left right : Bytes} (hpath : outPath left = outPath right) :
    cleanName left = cleanName right := by
  have hlength : ∀ name : Bytes, (ascii "downloads" ++ [slash] ++ name).length ≠ dot.length := by
    intro name
    have hdirectory : (ascii "downloads" ++ [slash]).length = 10 := by decide +kernel
    rw [List.length_append, hdirectory, dot, List.length_singleton]
    omega
  rw [outPath_eq, outPath_eq] at hpath
  split at hpath
  · rename_i hleft
    split at hpath
    · rename_i hright
      rw [hleft, hright]
    · exact absurd (congrArg List.length hpath).symm (hlength _)
  · split at hpath
    · exact absurd (congrArg List.length hpath) (hlength _)
    · exact List.append_cancel_left hpath

/-! ## One transfer -/

/-- The host's disk as files and open handles: operations on it succeed and do what
they do to the store.  A new handle was not open before. -/
structure Refines (host : Host) [DecidableEq host.File]
    (view : host.Disk → Store Bytes host.File) : Prop where
  mkdirAll : ∀ disk path, view (host.mkdirAll disk path) = view disk
  create : ∀ disk path disk' file, host.create disk path = some (disk', file) →
    (view disk).handles file = none ∧ view disk' = (view disk).create path file
  write : ∀ disk file chunk path offset, (view disk).handles file = some (path, offset) →
    view (host.write disk file chunk).1 = (view disk).write file chunk ∧
      (host.write disk file chunk).2 = chunk.length
  closeFile : ∀ disk file, view (host.closeFile disk file) = (view disk).close file
  readFile : ∀ disk path, host.readFile disk path = (view disk).files path

section Transfers

variable (suite : Suite) {host : Host} (view : host.Disk → Store Bytes host.File)
variable (marshalHeader : FileHeader → Bytes) (transfer : Transfer)

/-- The two reports of a transfer that went well. -/
def incomingReport : Report :=
  .incoming (base transfer.filePath) (outPath (transfer.header suite).filename)
    transfer.content.length

def verifiedReport : Report :=
  .verified (base transfer.filePath) transfer.content.length
    ((hexString (suite.sha256 transfer.content).val).take 12)

/-- Where a transfer stands, by the messages of it that are still to come. -/
inductive Tracks (desk : Desk host) : List Bytes → Prop where
  | waiting (chunks : List Bytes) (hcontent : chunks.flatten = transfer.content)
      (hnonempty : ∀ chunk ∈ chunks, chunk ≠ [])
      (hlookup : desk.lookup transfer.transferID = none)
      (hreports : reportsOn desk (base transfer.filePath) = []) :
      Tracks desk (startPayload marshalHeader (transfer.header suite) ::
        (chunks.map (chunkPayload transfer.transferID) ++ [endPayload transfer.transferID]))
  | receiving (received : Bytes) (chunks : List Bytes) (file : host.File) (chunkCount : ℕ)
      (hcontent : received ++ chunks.flatten = transfer.content)
      (hnonempty : ∀ chunk ∈ chunks, chunk ≠ [])
      (hlookup : desk.lookup transfer.transferID = some
        ⟨file, base transfer.filePath, received.length, chunkCount, transfer.header suite⟩)
      (hfile : (view desk.disk).AtEnd file (outPath (transfer.header suite).filename) received)
      (hreports : reportsOn desk (base transfer.filePath) = [incomingReport suite transfer]) :
      Tracks desk
        (chunks.map (chunkPayload transfer.transferID) ++ [endPayload transfer.transferID])
  | finished (hlookup : desk.lookup transfer.transferID = none)
      (hfile : (view desk.disk).files (outPath (transfer.header suite).filename) =
        some transfer.content)
      (hreports : reportsOn desk (base transfer.filePath) =
        [incomingReport suite transfer, verifiedReport suite transfer]) : Tracks desk []

/-- What a message of this transfer leaves alone. -/
structure Spares (desk desk' : Desk host) : Prop where
  lookup : ∀ transferID ≠ transfer.transferID, desk'.lookup transferID = desk.lookup transferID
  store : (view desk.disk).Confined (outPath (transfer.header suite).filename) (view desk'.disk)
  reports : ∀ filename ≠ base transfer.filePath, reportsOn desk' filename = reportsOn desk filename

variable {suite view marshalHeader transfer}

theorem Tracks.of_spares {other : Transfer} {desk desk' : Desk host} {remaining : List Bytes}
    (htracks : Tracks suite view marshalHeader transfer desk remaining)
    (hspares : Spares suite view other desk desk')
    (hid : transfer.transferID ≠ other.transferID)
    (hname : base transfer.filePath ≠ base other.filePath) :
    Tracks suite view marshalHeader transfer desk' remaining := by
  have hlookup := hspares.lookup transfer.transferID hid
  have hreports := hspares.reports (base transfer.filePath) hname
  have hpath :
      outPath (transfer.header suite).filename ≠ outPath (other.header suite).filename := by
    intro heq
    apply hname
    rw [← cleanName_header suite transfer, ← cleanName_header suite other]
    exact cleanName_eq_of_outPath_eq heq
  cases htracks with
  | waiting chunks hcontent hnonempty hwaiting hnone =>
      exact .waiting chunks hcontent hnonempty (hlookup.trans hwaiting) (hreports.trans hnone)
  | receiving received chunks file chunkCount hcontent hnonempty hopen hfile hincoming =>
      exact .receiving received chunks file chunkCount hcontent hnonempty (hlookup.trans hopen)
        (hfile.of_confined hspares.store hpath) (hreports.trans hincoming)
  | finished hclosed hfile hboth =>
      exact .finished (hlookup.trans hclosed) ((hspares.store.files _ hpath).trans hfile)
        (hreports.trans hboth)

theorem Tracks.finished_of_nil {desk : Desk host}
    (htracks : Tracks suite view marshalHeader transfer desk []) :
    desk.lookup transfer.transferID = none ∧
      (view desk.disk).files (outPath (transfer.header suite).filename) =
        some transfer.content ∧
      reportsOn desk (base transfer.filePath) =
        [incomingReport suite transfer, verifiedReport suite transfer] := by
  generalize hremaining : ([] : List Bytes) = remaining at htracks
  cases htracks with
  | waiting => cases hremaining
  | receiving received chunks => cases chunks <;> cases hremaining
  | finished hlookup hfile hreports => exact ⟨hlookup, hfile, hreports⟩

/-- Text changes neither the table nor the disk nor the reports. -/
theorem Tracks.emit {desk : Desk host} {remaining : List Bytes}
    (htracks : Tracks suite view marshalHeader transfer desk remaining) (text : Bytes) :
    Tracks suite view marshalHeader transfer (desk.emit text) remaining := by
  cases htracks with
  | waiting chunks hcontent hnonempty hlookup hreports =>
      exact .waiting chunks hcontent hnonempty hlookup hreports
  | receiving received chunks file chunkCount hcontent hnonempty hlookup hfile hreports =>
      exact .receiving received chunks file chunkCount hcontent hnonempty hlookup hfile hreports
  | finished hlookup hfile hreports => exact .finished hlookup hfile hreports

/-! ## Its messages -/

theorem dispatch_start {desk : Desk host} {disk' : host.Disk} {file : host.File}
    (hjson : host.unmarshalHeader (marshalHeader (transfer.header suite)) =
      some (transfer.header suite))
    (hcreate : host.create (host.mkdirAll desk.disk downloads)
      (outPath (transfer.header suite).filename) = some (disk', file)) :
    desk.dispatch suite (startPayload marshalHeader (transfer.header suite)) =
      ({ desk with disk := disk' }.insert transfer.transferID
        ⟨file, base transfer.filePath, 0, 0, transfer.header suite⟩).report
          (incomingReport suite transfer) := by
  have hid : (transfer.header suite).transferID ≠ [] := by
    apply List.ne_nil_of_length_pos
    rw [Source.header, length_transferID]
    decide
  rw [startPayload, Desk.dispatch, if_neg (by decide), if_pos rfl, fileStart_eq, hjson]
  dsimp only
  rw [if_neg hid, hcreate]
  dsimp only
  rw [cleanName_header]
  rfl

theorem dispatch_chunk {desk : Desk host} {active : ActiveFile host} {chunk : Bytes}
    (hnonempty : chunk ≠ []) (hlookup : desk.lookup transfer.transferID = some active) :
    ∃ acks, desk.dispatch suite (chunkPayload transfer.transferID chunk) =
      { { desk with disk := (host.write desk.disk active.file chunk).1 }.insert
          transfer.transferID { active with
            received := active.received + (host.write desk.disk active.file chunk).2
            chunkCount := active.chunkCount + 1 } with acks := acks } := by
  have hlength := length_transferID transfer.toSource
  have hlong : ¬ (transfer.transferID ++ chunk).length ≤ transferIDSize := by
    have hpos := List.length_pos_iff.mpr hnonempty
    rw [List.length_append, hlength]
    omega
  rw [chunkPayload, Desk.dispatch, if_neg (by decide), if_neg (by decide), if_pos rfl,
    Desk.fileChunk, if_neg hlong, List.take_left' hlength, List.drop_left' hlength]
  dsimp only
  rw [hlookup]
  dsimp only
  split
  · exact ⟨_, rfl⟩
  · exact ⟨_, rfl⟩

theorem dispatch_end {desk : Desk host} {active : ActiveFile host}
    (hlookup : desk.lookup transfer.transferID = some active) :
    desk.dispatch suite (endPayload transfer.transferID) =
      (({ desk with disk := host.closeFile desk.disk active.file }.sendAck
        transfer.transferID).checkFile suite active).delete transfer.transferID := by
  have hlength := length_transferID transfer.toSource
  rw [endPayload, Desk.dispatch, if_neg (by decide), if_neg (by decide), if_neg (by decide),
    if_pos rfl, Desk.fileEnd, if_neg hlength.not_lt, List.take_of_length_le hlength.le]
  dsimp only
  rw [hlookup]

section Steps

variable [DecidableEq host.File] (hview : Refines host view)
variable {desk : Desk host}

include hview

/-- The announcement opens an empty file. -/
theorem tracks_start {chunks : List Bytes} (hcontent : chunks.flatten = transfer.content)
    (hnonempty : ∀ chunk ∈ chunks, chunk ≠ [])
    (hreports : reportsOn desk (base transfer.filePath) = [])
    (hjson : host.unmarshalHeader (marshalHeader (transfer.header suite)) =
      some (transfer.header suite))
    (hcreate : ∀ disk, (host.create disk (outPath (transfer.header suite).filename)).isSome) :
    Tracks suite view marshalHeader transfer
        (desk.dispatch suite (startPayload marshalHeader (transfer.header suite)))
        (chunks.map (chunkPayload transfer.transferID) ++ [endPayload transfer.transferID]) ∧
      Spares suite view transfer desk
        (desk.dispatch suite (startPayload marshalHeader (transfer.header suite))) := by
  obtain ⟨⟨disk', file⟩, hcreated⟩ :=
    Option.isSome_iff_exists.mp (hcreate (host.mkdirAll desk.disk downloads))
  obtain ⟨hfree, hdisk⟩ := hview.create _ _ _ _ hcreated
  rw [hview.mkdirAll] at hfree hdisk
  rw [dispatch_start hjson hcreated]
  constructor
  · refine .receiving [] chunks file 0 hcontent hnonempty ?_ ?_ ?_
    · exact (lookup_insert _ _ _ _).trans (if_pos rfl)
    · change (view disk').AtEnd file _ []
      rw [hdisk]
      exact Store.atEnd_create _ _
    · refine (@reportsOn_own _ desk _ (incomingReport suite transfer) rfl).trans ?_
      exact congrArg (· ++ [incomingReport suite transfer]) hreports
  · refine ⟨?_, ?_, ?_⟩
    · intro transferID hother
      exact (lookup_insert _ _ _ _).trans (if_neg hother)
    · change Store.Confined _ _ (view disk')
      rw [hdisk]
      exact Store.confined_create hfree
    · intro filename hother
      exact @reportsOn_other _ desk _ (incomingReport suite transfer) rfl _ hother

/-- A chunk is appended. -/
theorem tracks_chunk {received chunk : Bytes} {chunks : List Bytes} {file : host.File}
    {chunkCount : ℕ} (hcontent : received ++ (chunk :: chunks).flatten = transfer.content)
    (hnonempty : ∀ piece ∈ chunk :: chunks, piece ≠ [])
    (hlookup : desk.lookup transfer.transferID = some
      ⟨file, base transfer.filePath, received.length, chunkCount, transfer.header suite⟩)
    (hfile : (view desk.disk).AtEnd file (outPath (transfer.header suite).filename) received)
    (hreports : reportsOn desk (base transfer.filePath) = [incomingReport suite transfer]) :
    Tracks suite view marshalHeader transfer
        (desk.dispatch suite (chunkPayload transfer.transferID chunk))
        (chunks.map (chunkPayload transfer.transferID) ++ [endPayload transfer.transferID]) ∧
      Spares suite view transfer desk
        (desk.dispatch suite (chunkPayload transfer.transferID chunk)) := by
  obtain ⟨hchunk, hrest⟩ := List.forall_mem_cons.mp hnonempty
  obtain ⟨acks, hdispatch⟩ := @dispatch_chunk suite _ _ _ _ _ hchunk hlookup
  obtain ⟨hdisk, hcount⟩ := hview.write desk.disk file chunk _ _ hfile.handle
  rw [hdispatch]
  constructor
  · refine .receiving (received ++ chunk) chunks file (chunkCount + 1) ?_ hrest ?_ ?_ hreports
    · rw [← hcontent, List.flatten_cons, List.append_assoc]
    · refine (lookup_insert _ _ _ _).trans ?_
      rw [if_pos rfl, hcount, List.length_append]
    · change (view (host.write desk.disk file chunk).1).AtEnd file _ _
      rw [hdisk]
      exact hfile.write chunk
  · refine ⟨?_, ?_, fun _ _ => rfl⟩
    · intro transferID hother
      exact (lookup_insert _ _ _ _).trans (if_neg hother)
    · change Store.Confined _ _ (view (host.write desk.disk file chunk).1)
      rw [hdisk]
      exact Store.confined_write hfile chunk

/-- At the end the file is closed, read back and found to be what was sent. -/
theorem tracks_end {file : host.File} {chunkCount : ℕ}
    (hlookup : desk.lookup transfer.transferID = some
      ⟨file, base transfer.filePath, transfer.content.length, chunkCount, transfer.header suite⟩)
    (hfile : (view desk.disk).AtEnd file (outPath (transfer.header suite).filename)
      transfer.content)
    (hreports : reportsOn desk (base transfer.filePath) = [incomingReport suite transfer]) :
    Tracks suite view marshalHeader transfer
        (desk.dispatch suite (endPayload transfer.transferID)) [] ∧
      Spares suite view transfer desk
        (desk.dispatch suite (endPayload transfer.transferID)) := by
  have hread : host.readFile (host.closeFile desk.disk file)
      (join downloads (base transfer.filePath)) = some transfer.content := by
    rw [hview.readFile, hview.closeFile, ← cleanName_header suite transfer]
    exact hfile.file
  have hsum : (transfer.header suite).sha256 ≠ [] := by
    apply List.ne_nil_of_length_pos
    rw [Source.header, length_hexString, (suite.sha256 transfer.content).property]
    decide
  have hcheck : ({ desk with disk := host.closeFile desk.disk file }.sendAck
      transfer.transferID).checkFile suite ⟨file, base transfer.filePath,
        transfer.content.length, chunkCount, transfer.header suite⟩ =
      ({ desk with disk := host.closeFile desk.disk file }.sendAck transfer.transferID).report
        (verifiedReport suite transfer) := by
    rw [Desk.checkFile, if_neg hsum]
    simp only [Desk.sendAck, hread]
    exact if_neg (not_not.mpr rfl)
  rw [dispatch_end hlookup, hcheck]
  constructor
  · refine .finished ?_ ?_ ?_
    · exact (lookup_delete _ _ _).trans (if_pos rfl)
    · change (view (host.closeFile desk.disk file)).files _ = _
      rw [hview.closeFile]
      exact hfile.file
    · refine (@reportsOn_own _ desk _ (verifiedReport suite transfer) rfl).trans ?_
      exact congrArg (· ++ [verifiedReport suite transfer]) hreports
  · refine ⟨?_, ?_, ?_⟩
    · intro transferID hother
      exact (lookup_delete _ _ _).trans (if_neg hother)
    · change Store.Confined _ _ (view (host.closeFile desk.disk file))
      rw [hview.closeFile]
      exact Store.confined_close hfile
    · intro filename hother
      exact @reportsOn_other _ desk _ (verifiedReport suite transfer) rfl _ hother

/-- The next message of a transfer moves it on and spares the others. -/
theorem tracks_step {payload : Bytes} {rest : List Bytes}
    (hjson : host.unmarshalHeader (marshalHeader (transfer.header suite)) =
      some (transfer.header suite))
    (hcreate : ∀ disk, (host.create disk (outPath (transfer.header suite).filename)).isSome)
    (htracks : Tracks suite view marshalHeader transfer desk (payload :: rest)) :
    Tracks suite view marshalHeader transfer (desk.dispatch suite payload) rest ∧
      Spares suite view transfer desk (desk.dispatch suite payload) := by
  generalize hremaining : payload :: rest = remaining at htracks
  cases htracks with
  | waiting chunks hcontent hnonempty hlookup hreports =>
      obtain ⟨rfl, rfl⟩ := List.cons.inj hremaining
      exact tracks_start hview hcontent hnonempty hreports hjson hcreate
  | receiving received chunks file chunkCount hcontent hnonempty hlookup hfile hreports =>
      cases chunks with
      | nil =>
          obtain ⟨rfl, rfl⟩ := List.cons.inj hremaining
          rw [List.flatten_nil, List.append_nil] at hcontent
          subst hcontent
          exact tracks_end hview hlookup hfile hreports
      | cons chunk chunks =>
          obtain ⟨rfl, rfl⟩ := List.cons.inj hremaining
          exact tracks_chunk hview hcontent hnonempty hlookup hfile hreports
  | finished => cases hremaining

end Steps

end Transfers

/-! ## Interleaved transfers -/

/-- A delivered message: one that a transfer sent, or text. -/
inductive Message (Index : Type*) where
  | file (index : Index) (payload : Bytes)
  | text (data : Bytes)

def Message.payload {Index : Type*} : Message Index → Bytes
  | .file _ payload => payload
  | .text data => tagText :: data

/-- The messages of one transfer, in the order of delivery. -/
def messagesOf {Index : Type*} [DecidableEq Index] (index : Index) :
    List (Message Index) → List Bytes
  | [] => []
  | .file other payload :: messages =>
      if other = index then payload :: messagesOf index messages else messagesOf index messages
  | .text _ :: messages => messagesOf index messages

/-- What the subscriber makes of them. -/
def receiveAll {Index : Type*} (suite : Suite) {host : Host} (desk : Desk host)
    (messages : List (Message Index)) : Desk host :=
  messages.foldl (fun desk message => desk.dispatch suite message.payload) desk

section Interleaving

variable {Index : Type*} [DecidableEq Index] {suite : Suite} {host : Host} [DecidableEq host.File]
variable {view : host.Disk → Store Bytes host.File} (hview : Refines host view)
variable {marshalHeader : FileHeader → Bytes} {transfers : Index → Transfer}
variable (hids : Function.Injective fun index => (transfers index).transferID)
variable (hnames : Function.Injective fun index => base (transfers index).filePath)
variable (hjson : ∀ index, host.unmarshalHeader (marshalHeader ((transfers index).header suite)) =
  some ((transfers index).header suite))
variable (hcreate : ∀ index disk,
  (host.create disk (outPath ((transfers index).header suite).filename)).isSome)

/-- Every transfer is where its remaining messages say, and nothing else is open. -/
structure OnTrack (suite : Suite) (view : host.Disk → Store Bytes host.File)
    (marshalHeader : FileHeader → Bytes) (transfers : Index → Transfer) (desk : Desk host)
    (messages : List (Message Index)) : Prop where
  tracks : ∀ index, Tracks suite view marshalHeader (transfers index) desk
    (messagesOf index messages)
  others : ∀ transferID, (∀ index, transferID ≠ (transfers index).transferID) →
    desk.lookup transferID = none

include hview hids hnames hjson hcreate

theorem onTrack_step {desk : Desk host} {message : Message Index} {messages : List (Message Index)}
    (htrack : OnTrack suite view marshalHeader transfers desk (message :: messages)) :
    OnTrack suite view marshalHeader transfers (desk.dispatch suite message.payload) messages := by
  cases message with
  | text data =>
      have htext : desk.dispatch suite (tagText :: data) =
          desk.emit (Sanitize.sanitizeTextOutput data) := by
        rw [Desk.dispatch, if_pos rfl]
      rw [Message.payload, htext]
      exact ⟨fun index => (htrack.tracks index).emit _, htrack.others⟩
  | file owner payload =>
      have howner := htrack.tracks owner
      rw [messagesOf, if_pos rfl] at howner
      obtain ⟨hmoved, hspares⟩ := tracks_step hview (hjson owner) (hcreate owner) howner
      constructor
      · intro index
        by_cases hindex : owner = index
        · subst hindex
          exact hmoved
        · have hother := htrack.tracks index
          rw [messagesOf, if_neg hindex] at hother
          exact hother.of_spares hspares (fun heq => hindex (hids heq).symm)
            (fun heq => hindex (hnames heq).symm)
      · intro transferID hfree
        exact (hspares.lookup transferID (hfree owner)).trans (htrack.others transferID hfree)

theorem onTrack_receiveAll {desk : Desk host} {messages : List (Message Index)}
    (htrack : OnTrack suite view marshalHeader transfers desk messages) :
    OnTrack suite view marshalHeader transfers (receiveAll suite desk messages) [] := by
  induction messages generalizing desk with
  | nil => exact htrack
  | cons message messages ih =>
      exact ih (onTrack_step hview hids hnames hjson hcreate htrack)

end Interleaving

/-- Files sent at the same time arrive whole: whatever the division into chunks, the
acknowledgements and timeouts, and the order in which the messages of different
transfers and text follow each other, every file ends up with the content that was
sent, is reported once and as verified, and no transfer stays open. -/
theorem files_reassembled {Index : Type*} [DecidableEq Index] (suite : Suite) (host : Host)
    [DecidableEq host.File] (view : host.Disk → Store Bytes host.File)
    (hview : Refines host view) (marshalHeader : FileHeader → Bytes)
    (transfers : Index → Transfer)
    (hids : Function.Injective fun index => (transfers index).transferID)
    (hnames : Function.Injective fun index => base (transfers index).filePath)
    (hjson : ∀ index,
      host.unmarshalHeader (marshalHeader ((transfers index).header suite)) =
        some ((transfers index).header suite))
    (hcreate : ∀ index disk,
      (host.create disk (outPath ((transfers index).header suite).filename)).isSome)
    (messages : List (Message Index))
    (hmessages : ∀ index, messagesOf index messages =
      (sendFile suite marshalHeader (transfers index).toSource).payloads)
    (desk : Desk host) (hactive : desk.activeFiles = []) (hreports : desk.reports = []) :
    (receiveAll suite desk messages).activeFiles = [] ∧
      (Function.Injective fun index => outPath ((transfers index).header suite).filename) ∧
      ∀ index,
        (view (receiveAll suite desk messages).disk).files
            (outPath ((transfers index).header suite).filename) =
          some (transfers index).content ∧
        reportsOn (receiveAll suite desk messages) (base (transfers index).filePath) =
          [incomingReport suite (transfers index), verifiedReport suite (transfers index)] := by
  have hnone : ∀ transferID, desk.lookup transferID = none := by
    intro transferID
    rw [Desk.lookup, hactive]
    rfl
  have hstart : OnTrack suite view marshalHeader transfers desk messages := by
    refine ⟨fun index => ?_, fun transferID _ => hnone transferID⟩
    obtain ⟨chunks, hsend, hcontent, hnonempty⟩ :=
      sendFile_of_transfer suite marshalHeader (transfers index)
    rw [hmessages, hsend]
    exact .waiting chunks hcontent hnonempty (hnone _) (by rw [reportsOn, hreports]; rfl)
  have hend := onTrack_receiveAll hview hids hnames hjson hcreate hstart
  refine ⟨?_, ?_, ?_⟩
  · apply activeFiles_eq_nil
    intro transferID
    by_cases hown : ∃ index, transferID = (transfers index).transferID
    · obtain ⟨index, rfl⟩ := hown
      exact (hend.tracks index).finished_of_nil.1
    · exact hend.others transferID fun index heq => hown ⟨index, heq⟩
  · intro left right hpath
    apply hnames
    have hname := cleanName_eq_of_outPath_eq hpath
    rwa [cleanName_header, cleanName_header] at hname
  · exact fun index => (hend.tracks index).finished_of_nil.2

/-! ## Two files at once

A disk in memory that hands out fresh handles, on which a run can be evaluated. -/

structure Memory where
  store : Store Bytes ℕ
  next : ℕ
  fresh : ∀ handle, next ≤ handle → store.handles handle = none

namespace Memory

variable (memory : Memory)

theorem lt_next {handle : ℕ} {path : Bytes} {offset : ℕ}
    (hopen : memory.store.handles handle = some (path, offset)) : handle < memory.next := by
  by_contra hge
  rw [memory.fresh handle (not_lt.mp hge)] at hopen
  cases hopen

def create (path : Bytes) : Memory where
  store := memory.store.create path memory.next
  next := memory.next + 1
  fresh handle hle :=
    (Function.update_of_ne (Nat.ne_of_gt hle) _ _).trans
      (memory.fresh handle (Nat.le_of_succ_le hle))

theorem write_fresh (file : ℕ) (chunk : Bytes) (handle : ℕ) (hle : memory.next ≤ handle) :
    (memory.store.write file chunk).handles handle = none := by
  rw [Store.write]
  split
  · exact memory.fresh handle hle
  · next path offset hopen =>
      have hne : handle ≠ file := (Nat.lt_of_lt_of_le (memory.lt_next hopen) hle).ne'
      exact (Function.update_of_ne hne _ _).trans (memory.fresh handle hle)

def write (file : ℕ) (chunk : Bytes) : Memory where
  store := memory.store.write file chunk
  next := memory.next
  fresh := memory.write_fresh file chunk

theorem close_fresh (file handle : ℕ) (hle : memory.next ≤ handle) :
    (memory.store.close file).handles handle = none := by
  by_cases heq : handle = file
  · subst heq
    exact Function.update_self _ _ _
  · exact (Function.update_of_ne heq _ _).trans (memory.fresh handle hle)

def closeFile (file : ℕ) : Memory where
  store := memory.store.close file
  next := memory.next
  fresh := memory.close_fresh file

def empty : Memory := ⟨⟨fun _ => none, fun _ => none⟩, 0, fun _ _ => rfl⟩

end Memory

/-- A host with such a disk that reads the given announcements. -/
def memoryHost (headers : List FileHeader) : Host where
  Disk := Memory
  File := ℕ
  mkdirAll memory _ := memory
  create memory path := some (memory.create path, memory.next)
  write memory file chunk := (memory.write file chunk, chunk.length)
  closeFile := Memory.closeFile
  readFile memory path := memory.store.files path
  unmarshalHeader := parsePlain headers

instance (headers : List FileHeader) : DecidableEq (memoryHost headers).File :=
  inferInstanceAs (DecidableEq ℕ)

theorem memoryHost_refines (headers : List FileHeader) :
    Refines (memoryHost headers) Memory.store where
  mkdirAll _ _ := rfl
  create disk path disk' file hcreate := by
    obtain ⟨rfl, rfl⟩ := Prod.mk.inj (Option.some.inj hcreate)
    exact ⟨Memory.fresh disk _ le_rfl, rfl⟩
  write _ _ _ _ _ _ := ⟨rfl, rfl⟩
  closeFile _ _ := rfl
  readFile _ _ := rfl

/-- A file of three bytes read in two pieces, and an empty one. -/
def sampleSource : Bool → Source
  | false => ⟨ascii "/tmp/a", [1, 2, 3], .ok (), copyFixed 8 [7], true,
      [⟨[1, 2], none, true, .acked⟩, ⟨[3], none, true, .timedOut⟩, ⟨[], some .eof, true, .acked⟩],
      true⟩
  | true => ⟨ascii "b", [], .ok (), copyFixed 8 [8], true, [⟨[], some .eof, true, .acked⟩], true⟩

theorem sampleSource_readsAll (index : Bool) :
    ReadsAll (sampleSource index).content.length (sampleSource index).rounds
      (sampleSource index).content := by
  have hpacing : Pacing.acked ≠ .cancelled ∧ Pacing.timedOut ≠ .cancelled :=
    ⟨Pacing.noConfusion, Pacing.noConfusion⟩
  have hlast : ∀ fileSize, ReadsAll fileSize [⟨[], some .eof, true, .acked⟩] [] := fun fileSize =>
    .last ⟨[], some .eof, true, .acked⟩ [] (Nat.zero_le _) rfl rfl hpacing.1
  cases index with
  | false =>
      exact .more ⟨[1, 2], none, true, .acked⟩ _ _ (by decide) rfl rfl hpacing.1
        (.more ⟨[3], none, true, .timedOut⟩ _ _ (by decide) rfl rfl hpacing.2 (hlast _))
  | true => exact hlast _

def sampleTransfer (index : Bool) : Transfer where
  toSource := sampleSource index
  hprepared := by cases index <;> rfl
  hstart := by cases index <;> rfl
  hend := by cases index <;> rfl
  hreads := sampleSource_readsAll index
  hnamed := by cases index <;> decide +kernel

def sampleHost : Host :=
  memoryHost [(sampleTransfer false).header transparent, (sampleTransfer true).header transparent]

def sampleMessages : List (Message Bool) :=
  let start := fun index => startPayload plainJSON ((sampleSource index).header transparent)
  let first := (sampleSource false).transferID
  let second := (sampleSource true).transferID
  [.file false (start false), .file false (chunkPayload first [1, 2]), .file true (start true),
    .text [104, 105], .file true (endPayload second), .file false (chunkPayload first [3]),
    .file false (endPayload first)]

instance : DecidableEq sampleHost.File := inferInstanceAs (DecidableEq ℕ)

/-- The text between them arrives in the middle of both transfers. -/
theorem files_reassembled_pair :
    let desk := receiveAll transparent (⟨[], Memory.empty, [], [], []⟩ : Desk sampleHost)
      sampleMessages
    desk.activeFiles = [] ∧
      (Memory.store desk.disk).files (ascii "downloads/a") = some [1, 2, 3] ∧
      (Memory.store desk.disk).files (ascii "downloads/b") = some [] := by
  have hfirst : outPath ((sampleTransfer false).header transparent).filename =
      ascii "downloads/a" := by decide +kernel
  have hsecond : outPath ((sampleTransfer true).header transparent).filename =
      ascii "downloads/b" := by decide +kernel
  have hwhole := files_reassembled transparent sampleHost Memory.store (memoryHost_refines _)
    plainJSON sampleTransfer (by decide +kernel) (by decide +kernel)
    (by decide +kernel) (fun _ _ => rfl) sampleMessages (by decide +kernel)
    ⟨[], Memory.empty, [], [], []⟩ rfl rfl
  refine ⟨hwhole.1, ?_, ?_⟩
  · rw [← hfirst]
    exact (hwhole.2.2 false).1
  · rw [← hsecond]
    exact (hwhole.2.2 true).1

end ZeroFeed.Reassembly
