import Mathlib

/-!
# High-water-mark filtering

A receiver that remembers only the largest key it has accepted keeps an item
exactly when its key exceeds that mark.  This file develops the filter over an
arbitrary linear order: what survives is strictly increasing, and a stream is
delivered completely exactly when no key is overtaken by a larger one before
its first appearance.
-/

namespace ZeroFeed.HighWater

open scoped List

variable {Item Key : Type*} [LinearOrder Key] (key : Item → Key)

/-- Keep every item whose key exceeds all keys seen before it and `mark`. -/
def keepAbove (mark : Key) : List Item → List Item
  | [] => []
  | item :: rest =>
      if key item ≤ mark then keepAbove mark rest
      else item :: keepAbove (key item) rest

/-- The mark left behind by a stream. -/
def markAfter (mark : Key) : List Item → Key
  | [] => mark
  | item :: rest => markAfter (max mark (key item)) rest

theorem keepAbove_cons_of_le {mark : Key} {item : Item} (hle : key item ≤ mark)
    (rest : List Item) :
    keepAbove key mark (item :: rest) = keepAbove key mark rest := by
  rw [keepAbove, if_pos hle]

theorem keepAbove_cons_of_lt {mark : Key} {item : Item} (hlt : mark < key item)
    (rest : List Item) :
    keepAbove key mark (item :: rest) = item :: keepAbove key (key item) rest := by
  rw [keepAbove, if_neg (not_le.mpr hlt)]

/-- A stream in two parts: the second one starts with the mark the first one
leaves. -/
theorem keepAbove_append (mark : Key) (left right : List Item) :
    keepAbove key mark (left ++ right) =
      keepAbove key mark left ++ keepAbove key (markAfter key mark left) right := by
  induction left generalizing mark with
  | nil => rfl
  | cons item rest ih =>
      rw [List.cons_append, markAfter]
      rcases le_or_gt (key item) mark with hle | hlt
      · rw [keepAbove_cons_of_le key hle, keepAbove_cons_of_le key hle, max_eq_left hle, ih]
      · rw [keepAbove_cons_of_lt key hlt, keepAbove_cons_of_lt key hlt, max_eq_right hlt.le, ih,
          List.cons_append]

theorem keepAbove_sublist (mark : Key) (items : List Item) :
    keepAbove key mark items <+ items := by
  induction items generalizing mark with
  | nil => exact List.Sublist.slnil
  | cons item rest ih =>
      rcases le_or_gt (key item) mark with hle | hlt
      · rw [keepAbove_cons_of_le key hle]
        exact (ih mark).cons item
      · rw [keepAbove_cons_of_lt key hlt]
        exact (ih (key item)).cons_cons item

theorem lt_of_mem_keepAbove {mark : Key} {items : List Item} {item : Item}
    (hmem : item ∈ keepAbove key mark items) : mark < key item := by
  induction items generalizing mark with
  | nil => simp [keepAbove] at hmem
  | cons head rest ih =>
      rcases le_or_gt (key head) mark with hle | hlt
      · rw [keepAbove_cons_of_le key hle] at hmem
        exact ih hmem
      · rw [keepAbove_cons_of_lt key hlt, List.mem_cons] at hmem
        rcases hmem with rfl | hmem
        · exact hlt
        · exact hlt.trans (ih hmem)

theorem filter_keepAbove (mark : Key) (items : List Item) :
    (keepAbove key mark items).filter (fun item => mark < key item) =
      keepAbove key mark items := by
  apply List.filter_eq_self.mpr
  intro item hitem
  exact decide_eq_true (lt_of_mem_keepAbove key hitem)

/-- The keys that survive are strictly increasing. -/
theorem keepAbove_increasing (mark : Key) (items : List Item) :
    (keepAbove key mark items).Pairwise (fun left right => key left < key right) := by
  induction items generalizing mark with
  | nil => exact List.Pairwise.nil
  | cons item rest ih =>
      rcases le_or_gt (key item) mark with hle | hlt
      · rw [keepAbove_cons_of_le key hle]
        exact ih mark
      · rw [keepAbove_cons_of_lt key hlt]
        exact List.Pairwise.cons (fun other hother => lt_of_mem_keepAbove key hother)
          (ih (key item))

/-- An item survives exactly when some occurrence of it exceeds the mark and
everything before it. -/
theorem mem_keepAbove_iff (mark : Key) (items : List Item) (item : Item) :
    item ∈ keepAbove key mark items ↔
      ∃ before after, items = before ++ item :: after ∧ mark < key item ∧
        ∀ earlier ∈ before, key earlier < key item := by
  induction items generalizing mark with
  | nil => simp [keepAbove]
  | cons head rest ih =>
      constructor
      · intro hmem
        rcases le_or_gt (key head) mark with hle | hlt
        · rw [keepAbove_cons_of_le key hle] at hmem
          obtain ⟨before, after, rfl, hmark, hbefore⟩ := (ih mark).mp hmem
          refine ⟨head :: before, after, rfl, hmark, ?_⟩
          intro earlier hearlier
          rcases List.mem_cons.mp hearlier with rfl | hearlier
          · exact hle.trans_lt hmark
          · exact hbefore earlier hearlier
        · rw [keepAbove_cons_of_lt key hlt, List.mem_cons] at hmem
          rcases hmem with rfl | hmem
          · exact ⟨[], rest, rfl, hlt, by simp⟩
          obtain ⟨before, after, rfl, hhead, hbefore⟩ := (ih (key head)).mp hmem
          refine ⟨head :: before, after, rfl, hlt.trans hhead, ?_⟩
          intro earlier hearlier
          rcases List.mem_cons.mp hearlier with rfl | hearlier
          · exact hhead
          · exact hbefore earlier hearlier
      · rintro ⟨before, after, hsplit, hmark, hbefore⟩
        cases before with
        | nil =>
            obtain ⟨rfl, rfl⟩ := List.cons.inj hsplit
            rw [keepAbove_cons_of_lt key hmark]
            exact List.mem_cons_self
        | cons first before =>
            obtain ⟨rfl, rfl⟩ := List.cons.inj hsplit
            have hfirst : key head < key item := hbefore head List.mem_cons_self
            have hrest : ∀ earlier ∈ before, key earlier < key item :=
              fun earlier hearlier => hbefore earlier (List.mem_cons_of_mem head hearlier)
            rcases le_or_gt (key head) mark with hle | hlt
            · rw [keepAbove_cons_of_le key hle]
              exact (ih mark).mpr ⟨before, after, rfl, hmark, hrest⟩
            · rw [keepAbove_cons_of_lt key hlt]
              exact List.mem_cons_of_mem head
                ((ih (key head)).mpr ⟨before, after, rfl, hfirst, hrest⟩)

/-! ## Complete delivery -/

/-- No key above the mark makes its first appearance after a larger one. -/
def NoOvertaking (mark : Key) (items : List Item) : Prop :=
  ∀ before item after, items = before ++ item :: after → mark < key item →
    (∀ earlier ∈ before, key earlier ≠ key item) →
    ∀ earlier ∈ before, key earlier < key item

theorem noOvertaking_of_increasing (mark : Key) {items : List Item}
    (hincreasing : items.Pairwise fun left right => key left < key right) :
    NoOvertaking key mark items := by
  rintro before item after rfl _ _ earlier hearlier
  exact (List.pairwise_append.mp hincreasing).2.2 earlier hearlier item List.mem_cons_self

/-- Every key above the mark survives exactly when none is overtaken. -/
theorem keepAbove_complete_iff (mark : Key) (items : List Item) :
    (∀ item ∈ items, mark < key item →
        ∃ kept ∈ keepAbove key mark items, key kept = key item) ↔
      NoOvertaking key mark items := by
  constructor
  · intro hcomplete before item after hsplit hmark hfirst earlier hearlier
    have hmem : item ∈ items := by simp [hsplit]
    obtain ⟨kept, hkept, hkey⟩ := hcomplete item hmem hmark
    obtain ⟨keptBefore, keptAfter, hkeptSplit, -, hkeptBefore⟩ :=
      (mem_keepAbove_iff key mark items kept).mp hkept
    rw [hsplit] at hkeptSplit
    rcases List.append_eq_append_iff.mp hkeptSplit with
      ⟨middle, hmiddle, -⟩ | ⟨middle, hmiddle, htail⟩
    · rw [← hkey]
      exact hkeptBefore earlier (by simp [hmiddle, hearlier])
    · cases middle with
      | nil =>
          rw [List.append_nil] at hmiddle
          rw [← hkey]
          exact hkeptBefore earlier (hmiddle ▸ hearlier)
      | cons head middle =>
          obtain ⟨rfl, -⟩ := List.cons.inj htail
          exact absurd hkey (hfirst kept (by simp [hmiddle]))
  · intro horder item hmem hmark
    -- the first occurrence of the key decides whether it is kept
    let found := items.find? (fun other => key other = key item)
    obtain ⟨first, before, after, hsplit, hkey, hbefore⟩ :
        ∃ first before after, items = before ++ first :: after ∧
          key first = key item ∧ ∀ earlier ∈ before, key earlier ≠ key item := by
      cases hfound : found with
      | none =>
          have hnone := List.find?_eq_none.mp hfound item hmem
          simp at hnone
      | some first =>
          obtain ⟨hkey, before, after, hsplit, hbefore⟩ :=
            List.find?_eq_some_iff_append.mp hfound
          exact ⟨first, before, after, hsplit, by simpa using hkey,
            fun earlier hearlier => by simpa using hbefore earlier hearlier⟩
    refine ⟨first, (mem_keepAbove_iff key mark items first).mpr
      ⟨before, after, hsplit, hkey ▸ hmark, ?_⟩, hkey⟩
    exact horder before first after hsplit (hkey ▸ hmark) (hkey ▸ hbefore)

/-! ## Increasing lists -/

/-- An increasing list drawn from an increasing list is a subsequence of it. -/
theorem sublist_of_increasing {left right : List Item}
    (hleft : left.Pairwise fun first second => key first < key second)
    (hright : right.Pairwise fun first second => key first < key second)
    (hsubset : left ⊆ right) : left <+ right := by
  let below : Item → Item → Prop := fun first second => key first < key second
  have hantisymm : Std.Antisymm below :=
    ⟨fun first second hforward hback => absurd hback (lt_asymm hforward)⟩
  have hnodup : left.Nodup :=
    hleft.imp fun hlt heq => (ne_of_lt hlt) (congrArg key heq)
  exact List.sublist_of_subperm_of_pairwise
    (List.subperm_of_subset hnodup hsubset) hleft hright

theorem eq_of_increasing {left right : List Item}
    (hleft : left.Pairwise fun first second => key first < key second)
    (hright : right.Pairwise fun first second => key first < key second)
    (hsame : ∀ item, item ∈ left ↔ item ∈ right) : left = right :=
  (sublist_of_increasing key hleft hright fun item => (hsame item).mp).antisymm
    (sublist_of_increasing key hright hleft fun item => (hsame item).mpr)

theorem eq_of_key_eq {source : List Item}
    (hincreasing : source.Pairwise fun first second => key first < key second)
    {left right : Item} (hleft : left ∈ source) (hright : right ∈ source)
    (hkey : key left = key right) : left = right := by
  have hdistinct : (source.map key).Nodup :=
    List.pairwise_map.mpr (hincreasing.imp fun hlt => hlt.ne)
  exact List.inj_on_of_nodup_map hdistinct hleft hright hkey

/-- A stream that carries all of an increasing source above the mark, and
nothing else, delivers it exactly when no key is overtaken. -/
theorem keepAbove_eq_filter_iff {source items : List Item} {mark : Key}
    (hincreasing : source.Pairwise fun first second => key first < key second)
    (hsubset : ∀ item ∈ items, item ∈ source)
    (hcarried : ∀ item ∈ source, mark < key item → item ∈ items) :
    keepAbove key mark items = source.filter (fun item => mark < key item) ↔
      NoOvertaking key mark items := by
  rw [← keepAbove_complete_iff]
  constructor
  · intro heq item hitem hmark
    refine ⟨item, ?_, rfl⟩
    rw [heq, List.mem_filter]
    exact ⟨hsubset item hitem, decide_eq_true hmark⟩
  · intro hcomplete
    refine eq_of_increasing key (keepAbove_increasing key mark items) (hincreasing.filter _) ?_
    intro item
    rw [List.mem_filter, decide_eq_true_eq]
    constructor
    · intro hkept
      exact ⟨hsubset item ((keepAbove_sublist key mark items).subset hkept),
        lt_of_mem_keepAbove key hkept⟩
    · rintro ⟨hitem, hmark⟩
      obtain ⟨kept, hkept, hkey⟩ := hcomplete item (hcarried item hitem hmark) hmark
      have hsource := hsubset kept ((keepAbove_sublist key mark items).subset hkept)
      exact eq_of_key_eq key hincreasing hsource hitem hkey ▸ hkept

end ZeroFeed.HighWater
