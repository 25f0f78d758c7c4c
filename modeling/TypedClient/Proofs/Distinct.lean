import Mathlib.Data.List.Basic
import Mathlib.Data.List.Induction

/-! Lists from which every item is left out that an earlier one already stands for. -/

namespace TypedClient

section Repeats

variable {α : Type} [BEq α] [LawfulBEq α]

/-- A further item is kept if it is a new one. -/
theorem eraseDups_concat (items : List α) (item : α) :
    (items ++ [item]).eraseDups
      = if item ∈ items.eraseDups then items.eraseDups else items.eraseDups ++ [item] := by
  rw [List.eraseDups_append]
  by_cases known : item ∈ items <;> simp [known, List.removeAll, List.eraseDups_cons]

/-- The items of a list without repeats stand in the order in which they are met first. -/
theorem pairwise_idxOf_eraseDups (items : List α) :
    items.eraseDups.Pairwise fun a b => items.idxOf a < items.idxOf b := by
  induction items using List.reverseRecOn with
  | nil => exact .nil
  | append_singleton items item ih =>
    -- Where an item is met first does not change when more follows.
    have kept {a : α} (mem : a ∈ items.eraseDups) : (items ++ [item]).idxOf a = items.idxOf a :=
      List.idxOf_append_of_mem (List.mem_eraseDups.mp mem)
    have before : items.eraseDups.Pairwise fun a b =>
        (items ++ [item]).idxOf a < (items ++ [item]).idxOf b :=
      ih.imp_of_mem fun first second less => by rwa [kept first, kept second]
    rw [eraseDups_concat]
    split
    · exact before
    · next fresh =>
      refine List.pairwise_append.mpr ⟨before, List.pairwise_singleton _ _, fun a inside b last => ?_⟩
      -- A new item is met behind all of them.
      rw [List.mem_singleton.mp last, kept inside,
        List.idxOf_append_of_notMem (mt List.mem_eraseDups.mpr fresh)]
      exact Nat.lt_add_right _ (List.idxOf_lt_length_of_mem (List.mem_eraseDups.mp inside))

/-- No item is left twice. -/
theorem nodup_eraseDups (items : List α) : items.eraseDups.Nodup := by
  refine (pairwise_idxOf_eraseDups items).imp fun less same => ?_
  subst same
  exact Nat.lt_irrefl _ less

end Repeats

variable {α : Type} {same : α → α → Bool}

/-- The items that are kept of a list: each item has one of them that it counts as the same as. -/
structure KeepsFirst (same : α → α → Bool) (items kept : List α) : Prop where
  /-- Only items are kept, in their order. -/
  sublist : kept.Sublist items
  /-- What is left out counts as the same as something that is kept. -/
  covers : ∀ a ∈ items, ∃ k ∈ kept, same k a = true
  /-- No two that are kept count as the same. -/
  distinct : kept.Pairwise fun a b => same a b = false

/-- An item that nothing stands for can come last without standing for anything itself. -/
theorem pairwise_concat {kept : List α} {a : α} (distinct : kept.Pairwise fun a b => same a b = false)
    (fresh : kept.any (same · a) = false) : (kept ++ [a]).Pairwise fun a b => same a b = false := by
  refine List.pairwise_append.mpr ⟨distinct, List.pairwise_singleton _ _, ?_⟩
  intro k inside b last
  rw [List.mem_singleton.mp last]
  simpa using List.any_eq_false.mp fresh k inside

/-- What is kept when one more item comes. -/
theorem KeepsFirst.step {items kept : List α} (held : KeepsFirst same items kept) (a : α)
    (reflexive : same a a = true) :
    KeepsFirst same (items ++ [a]) (if kept.any (same · a) then kept else kept ++ [a]) := by
  obtain ⟨sublist, covers, distinct⟩ := held
  -- The item is left out if something stands for it, and comes last otherwise.
  split
  · next known =>
    refine ⟨sublist.trans (List.sublist_append_left _ _), ?_, distinct⟩
    intro b mem
    rcases List.mem_append.mp mem with earlier | last
    · exact covers b earlier
    · rw [List.mem_singleton.mp last]
      exact List.any_eq_true.mp known
  · next fresh =>
    refine ⟨sublist.append (List.Sublist.refl _), ?_, pairwise_concat distinct (by simpa using fresh)⟩
    -- The item stands for itself, and what stood for the earlier ones is still there.
    intro b mem
    rcases List.mem_append.mp mem with earlier | last
    · obtain ⟨k, inside, equal⟩ := covers b earlier
      exact ⟨k, List.mem_append_left _ inside, equal⟩
    · rw [List.mem_singleton.mp last]
      exact ⟨a, by simp, reflexive⟩

/-- Going through a list from its start keeps the first of all items that count as the same. -/
theorem KeepsFirst.foldl {items : List α} (reflexive : ∀ a ∈ items, same a a = true) :
    KeepsFirst same items
      (items.foldl (fun kept a => if kept.any (same · a) then kept else kept ++ [a]) []) := by
  -- The walk goes from the first item to the last, so the last one is what it meets last.
  induction items using List.reverseRecOn with
  | nil => exact ⟨.refl _, by simp, .nil⟩
  | append_singleton items a ih =>
    obtain ⟨earlier, last⟩ := List.forall_mem_append.mp reflexive
    rw [List.foldl_append]
    exact (ih earlier).step a (last a List.mem_cons_self)

/-- No two of the items that are kept on the way through a list count as the same. -/
theorem pairwise_foldl_keep (same : α → α → Bool) (items : List α) :
    (items.foldl (fun kept a => if kept.any (same · a) then kept else kept ++ [a]) []).Pairwise
      fun a b => same a b = false := by
  induction items using List.reverseRecOn with
  | nil => exact .nil
  | append_singleton items a ih =>
    rw [List.foldl_append]
    dsimp only [List.foldl_cons, List.foldl_nil]
    -- Only an item that nothing stands for is added.
    split
    · exact ih
    · next fresh => exact pairwise_concat ih (by simpa using fresh)

/-- Only items are kept on the way through a list, in their order. -/
theorem foldl_keep_sublist (same : α → α → Bool) (items : List α) :
    (items.foldl (fun kept a => if kept.any (same · a) then kept else kept ++ [a]) []).Sublist items := by
  induction items using List.reverseRecOn with
  | nil => exact .refl _
  | append_singleton items a ih =>
    rw [List.foldl_append]
    dsimp only [List.foldl_cons, List.foldl_nil]
    split
    · exact ih.trans (List.sublist_append_left _ _)
    · exact ih.append (.refl _)

/-- What is looked for by something that items have in common if they count as the same is found first among those
that are kept. -/
theorem find?_foldl_keep {p : α → Bool} (common : ∀ a b, same a b = true → p a = p b) (items : List α) :
    (items.foldl (fun kept a => if kept.any (same · a) then kept else kept ++ [a]) []).find? p
      = items.find? p := by
  induction items using List.reverseRecOn with
  | nil => rfl
  | append_singleton items a ih =>
    rw [List.foldl_append, List.find?_append, ← ih]
    dsimp only [List.foldl_cons, List.foldl_nil]
    generalize items.foldl _ [] = kept
    split
    · next known =>
      -- What is left out is not needed, as what stands for it is found just as well.
      obtain ⟨k, inside, equal⟩ := List.any_eq_true.mp known
      cases found : kept.find? p with
      | some first => rfl
      | none =>
        have missed : p a = false := common k a equal ▸ by simpa using List.find?_eq_none.mp found k inside
        simp [missed]
    · rw [List.find?_append]

/-- Items no two of which count as the same are all kept. -/
theorem foldl_keep_of_pairwise {items : List α} (apart : items.Pairwise fun a b => same a b = false) :
    items.foldl (fun kept a => if kept.any (same · a) then kept else kept ++ [a]) [] = items := by
  induction items using List.reverseRecOn with
  | nil => rfl
  | append_singleton items a ih =>
    obtain ⟨before, -, last⟩ := List.pairwise_append.mp apart
    have fresh : items.any (same · a) = false := by
      simpa using fun k inside => last k inside a List.mem_cons_self
    rw [List.foldl_append, ih before]
    exact if_neg (by simp only [fresh, Bool.false_eq_true, not_false_eq_true])

end TypedClient
