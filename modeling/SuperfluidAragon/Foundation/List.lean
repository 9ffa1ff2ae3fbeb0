import Mathlib.Data.List.Basic

/-! The store replaces one record of a list by `findIndex` followed by an
assignment at the index found, and appends a new record when none is found.
These facts turn that into a `map` when at most one element can be found, and
say how two such updates on different keys, or on one key, combine. -/

namespace SuperfluidAragon.Foundation

variable {α : Type}

/-- No two positions of `values` both satisfy `p`. -/
def AtMostOne (p : α → Bool) (values : List α) : Prop :=
  values.Pairwise fun x y => p x = true → p y = true → False

theorem modify_findIdx?_eq_map (change : α → α) {p : α → Bool} :
    ∀ {values : List α} {index : Nat}, values.findIdx? p = some index →
      AtMostOne p values →
      values.modify change index = values.map fun x => if p x then change x else x
  | [], _, found, _ => by simp at found
  | x :: rest, index, found, unique => by
      rw [AtMostOne, List.pairwise_cons] at unique
      rw [List.findIdx?_cons, List.findIdx?_succ] at found
      by_cases hit : p x = true
      · have others : ∀ y ∈ rest, p y = false := fun y member =>
          Bool.eq_false_iff.mpr fun hitToo => unique.1 y member hit hitToo
        simp only [hit, if_true, Option.some.injEq] at found
        subst index
        simp only [List.modify_zero_cons, hit, if_true, List.map_cons, List.cons.injEq, true_and]
        exact (List.map_congr_left fun y member => by simp [others y member]).trans
          (List.map_id rest) |>.symm
      · simp only [hit, Bool.false_eq_true, if_false, Option.map_eq_some'] at found
        obtain ⟨restIndex, restFound, rfl⟩ := found
        simp only [List.modify_succ_cons, List.map_cons, hit, Bool.false_eq_true, if_false]
        rw [modify_findIdx?_eq_map change restFound unique.2]

theorem atMostOne_of_pairwise {key : α → β} {p : α → Bool} {values : List α}
    (distinct : values.Pairwise fun x y => key x ≠ key y)
    (sameKey : ∀ x ∈ values, ∀ y ∈ values, p x = true → p y = true → key x = key y) :
    AtMostOne p values :=
  distinct.imp_of_mem fun inX inY different hitX hitY =>
    different (sameKey _ inX _ inY hitX hitY)

/-- Changing one element in a way `key` does not see leaves the keys as they were. -/
theorem map_modify_of_comp {β : Type} {change : α → α} {key : α → β}
    (keep : ∀ x, key (change x) = key x) :
    ∀ (index : Nat) (values : List α), (values.modify change index).map key = values.map key
  | _, [] => by simp
  | 0, x :: rest => by simp [keep]
  | index + 1, x :: rest => by simp [map_modify_of_comp keep index rest]

/-- The same, when only the changed element has to keep its key. -/
theorem map_modify_of_getElem? {β : Type} {change : α → α} {key : α → β} {index : Nat}
    {values : List α} (keep : ∀ x, values[index]? = some x → key (change x) = key x) :
    (values.modify change index).map key = values.map key := by
  apply List.ext_getElem?
  intro position
  simp only [List.getElem?_map, List.getElem?_modify]
  by_cases same : index = position
  · subst same
    cases found : values[index]? with
    | none => simp
    | some x => simp [keep x found]
  · simp [same]

theorem mem_modify {change : α → α} {y : α} :
    ∀ {index : Nat} {values : List α}, y ∈ values.modify change index →
      y ∈ values ∨ ∃ x ∈ values, y = change x
  | _, [], member => by simp at member
  | 0, x :: rest, member => by
      rcases List.mem_cons.mp (by simpa using member) with rfl | inRest
      · exact .inr ⟨x, List.mem_cons_self x rest, rfl⟩
      · exact .inl (List.mem_cons_of_mem x inRest)
  | index + 1, x :: rest, member => by
      rcases List.mem_cons.mp (by simpa using member) with rfl | inRest
      · exact .inl (List.mem_cons_self _ rest)
      · rcases mem_modify inRest with old | ⟨z, inZ, rfl⟩
        · exact .inl (List.mem_cons_of_mem x old)
        · exact .inr ⟨z, List.mem_cons_of_mem x inZ, rfl⟩

/-- Changing one element in a way `p` does not see leaves what `findIdx?` finds. -/
theorem findIdx?_modify_of_comp {change : α → α} {p : α → Bool}
    (keep : ∀ x, p (change x) = p x) :
    ∀ (index : Nat) (values : List α) (start : Nat),
      (values.modify change index).findIdx? p start = values.findIdx? p start
  | _, [], _ => by simp
  | 0, x :: rest, start => by simp [keep]
  | index + 1, x :: rest, start => by
      simp only [List.modify_succ_cons, List.findIdx?_cons,
        findIdx?_modify_of_comp keep index rest (start + 1)]

/-- Changing an element into itself changes nothing. -/
theorem modify_eq_self_of_fixed {change : α → α} {index : Nat} {values : List α} {x : α}
    (present : values[index]? = some x) (fixed : change x = x) :
    values.modify change index = values := by
  refine List.ext_getElem? fun other => ?_
  rw [List.getElem?_modify]
  by_cases same : index = other
  · subst same
    simp [present, fixed]
  · simp [same]

theorem findIdx?_append_singleton {p : α → Bool} {values : List α} {last : α}
    (missing : values.findIdx? p = none) (hit : p last = true) :
    (values ++ [last]).findIdx? p = some values.length := by
  rw [List.findIdx?_eq_some_iff_getElem]
  refine ⟨by simp, by simpa using hit, fun j before => ?_⟩
  rw [List.getElem_append_left before]
  simpa using List.findIdx?_eq_none_iff.mp missing _ (List.getElem_mem _)

/-- With keys distinct, the elements of `values` with the key of a member are
that member alone. -/
theorem filter_key_eq_singleton {β : Type} [DecidableEq β] {key : α → β} :
    ∀ {values : List α}, (values.map key).Nodup → ∀ {x : α}, x ∈ values →
      values.filter (fun y => key y = key x) = [x]
  | [], _, _, member => absurd member (List.not_mem_nil _)
  | y :: rest, distinct, x, member => by
      rw [List.map_cons, List.nodup_cons] at distinct
      rcases List.mem_cons.mp member with rfl | inRest
      · have others : ∀ z ∈ rest, ¬key z = key x := fun z inRest same =>
          distinct.1 (same ▸ List.mem_map_of_mem key inRest)
        simpa [List.filter_cons] using others
      · have different : key y ≠ key x := fun same =>
          distinct.1 (same ▸ List.mem_map_of_mem key inRest)
        simp [List.filter_cons, different, filter_key_eq_singleton distinct.2 inRest]

/-- An element of a list with one more element at its end. -/
theorem getElem?_append_singleton {values : List α} {last x : α} {index : Nat}
    (found : (values ++ [last])[index]? = some x) :
    values[index]? = some x ∨ index = values.length ∧ x = last := by
  rw [List.getElem?_append] at found
  split at found
  · exact .inl found
  · rename_i after
    obtain ⟨within, same⟩ := List.getElem?_eq_some_iff.mp found
    simp only [List.length_singleton] at within
    refine .inr ⟨by omega, ?_⟩
    simpa using same.symm

/-- An element of a list with one position changed. -/
theorem getElem?_modify_some {values : List α} {f : α → α} {n index : Nat} {x : α}
    (found : (values.modify f n)[index]? = some x) :
    ∃ y, values[index]? = some y ∧ x = if n = index then f y else y := by
  rw [List.getElem?_modify] at found
  obtain ⟨y, old, rfl⟩ := Option.map_eq_some'.mp found
  exact ⟨y, old, rfl⟩

/-! ## Update or append by key -/

section Upsert

variable {β : Type} [DecidableEq β] (key : α → β)

/-- The elements with key `k` rewritten by `change`, or `fresh` appended when
there is none. -/
def upsert (k : β) (change : α → α) (fresh : α) (values : List α) : List α :=
  if k ∈ values.map key then values.map fun x => if key x = k then change x else x
  else values ++ [fresh]

variable {key} {k : β} {change : α → α} {fresh : α}

theorem keys_upsert (keep : ∀ x, key x = k → key (change x) = k) (freshKey : key fresh = k)
    (values : List α) :
    (upsert key k change fresh values).map key =
      if k ∈ values.map key then values.map key else values.map key ++ [k] := by
  unfold upsert
  split
  · rw [List.map_map]
    refine List.map_congr_left fun x _ => ?_
    simp only [Function.comp_apply]
    split
    · rename_i hit; rw [keep x hit, hit]
    · rfl
  · simp [freshKey]

theorem mem_keys_upsert (keep : ∀ x, key x = k → key (change x) = k) (freshKey : key fresh = k)
    (values : List α) (k' : β) :
    k' ∈ (upsert key k change fresh values).map key ↔ k' ∈ values.map key ∨ k' = k := by
  rw [keys_upsert keep freshKey]
  split
  · exact ⟨.inl, fun | .inl old => old | .inr same => same ▸ ‹_›⟩
  · simp

/-- Setting key `k` to one value: the first element with key `k'` is that value when
`k' = k`, and is untouched otherwise. -/
theorem find?_upsert_const (freshKey : key fresh = k) (values : List α) (k' : β) :
    (upsert key k (fun _ => fresh) fresh values).find? (fun x => key x = k') =
      if k = k' then some fresh else values.find? (fun x => key x = k') := by
  have absentIff : values.find? (fun x => key x = k) = none ↔ k ∉ values.map key := by
    simp [List.find?_eq_none]
  unfold upsert
  split
  · -- every element keeps whether it has key `k'`
    rename_i present
    have same : ((fun x => decide (key x = k')) ∘ fun x => if key x = k then fresh else x) =
        fun x => decide (key x = k') :=
      funext fun x => by by_cases hit : key x = k <;> simp [hit, freshKey]
    rw [List.find?_map, same]
    cases found : values.find? (fun x => key x = k') with
    | none =>
      split
      · subst k'
        exact absurd present (absentIff.mp found)
      · rfl
    | some x =>
      have hit : key x = k' := by simpa using List.find?_some found
      split
      · simp [hit, ‹k = k'›]
      · simp [hit, Ne.symm ‹k ≠ k'›]
  · -- `fresh` is appended, after every element of another key
    rename_i absent
    rw [List.find?_append]
    split
    · subst k'
      simp [absentIff.mpr absent, freshKey]
    · simp [freshKey, ‹k ≠ k'›, Option.or_none]

/-- The first element with key `k'` after an update on key `k` that keeps keys: the first
element with key `k` changed, or `fresh` when there is none, if `k' = k`; untouched
otherwise. -/
theorem find?_upsert (keep : ∀ x, key x = k → key (change x) = k) (freshKey : key fresh = k)
    (values : List α) (k' : β) :
    (upsert key k change fresh values).find? (fun x => key x = k') =
      if k = k' then some ((values.find? fun x => key x = k).elim fresh change)
      else values.find? (fun x => key x = k') := by
  have absentIff : values.find? (fun x => key x = k) = none ↔ k ∉ values.map key := by
    simp [List.find?_eq_none]
  unfold upsert
  split
  · -- every element keeps whether it has key `k'`
    rename_i present
    have same : ((fun x => decide (key x = k')) ∘ fun x => if key x = k then change x else x) =
        fun x => decide (key x = k') :=
      funext fun x => by by_cases hit : key x = k <;> simp [hit, keep]
    rw [List.find?_map, same]
    split
    · subst k'
      cases found : values.find? (fun x => key x = k) with
      | none => exact absurd present (absentIff.mp found)
      | some x => simp [(by simpa using List.find?_some found : key x = k)]
    · cases found : values.find? (fun x => key x = k') with
      | none => rfl
      | some x =>
        have hit : key x = k' := by simpa using List.find?_some found
        simp [hit, Ne.symm ‹k ≠ k'›]
  · -- `fresh` is appended, after every element of another key
    rename_i absent
    rw [List.find?_append]
    split
    · subst k'
      simp [absentIff.mpr absent, freshKey]
    · simp [freshKey, ‹k ≠ k'›, Option.or_none]

/-- Updates on two different keys commute, up to the order of what they append. -/
theorem upsert_comm {k₁ k₂ : β} (different : k₁ ≠ k₂) {change₁ change₂ : α → α} {fresh₁ fresh₂ : α}
    (keep₁ : ∀ x, key x = k₁ → key (change₁ x) = k₁) (keep₂ : ∀ x, key x = k₂ → key (change₂ x) = k₂)
    (freshKey₁ : key fresh₁ = k₁) (freshKey₂ : key fresh₂ = k₂) (values : List α) :
    (upsert key k₂ change₂ fresh₂ (upsert key k₁ change₁ fresh₁ values)).Perm
      (upsert key k₁ change₁ fresh₁ (upsert key k₂ change₂ fresh₂ values)) := by
  have commute : ∀ x, (if key (if key x = k₁ then change₁ x else x) = k₂ then
        change₂ (if key x = k₁ then change₁ x else x) else if key x = k₁ then change₁ x else x) =
      if key (if key x = k₂ then change₂ x else x) = k₁ then
        change₁ (if key x = k₂ then change₂ x else x) else if key x = k₂ then change₂ x else x := by
    intro x
    by_cases first : key x = k₁
    · have : key x ≠ k₂ := first ▸ different
      simp [first, this, keep₁, different]
    · by_cases second : key x = k₂
      · simp [first, second, keep₂, Ne.symm different]
      · simp [first, second]
  have listed₁ := mem_keys_upsert keep₁ freshKey₁ values
  have listed₂ := mem_keys_upsert keep₂ freshKey₂ values
  unfold upsert at listed₁ listed₂ ⊢
  by_cases present₁ : k₁ ∈ values.map key <;> by_cases present₂ : k₂ ∈ values.map key <;>
    simp only [present₁, present₂, if_true, if_false] at listed₁ listed₂ ⊢
  · rw [if_pos ((listed₁ k₂).mpr (.inl present₂)), if_pos ((listed₂ k₁).mpr (.inl present₁)),
      List.map_map, List.map_map]
    exact .of_eq (List.map_congr_left fun x _ => commute x)
  · rw [if_neg fun listed => ((listed₁ k₂).mp listed).elim present₂ (Ne.symm different),
      if_pos ((listed₂ k₁).mpr (.inl present₁)), List.map_append]
    simp [freshKey₂, Ne.symm different]
  · rw [if_pos ((listed₁ k₂).mpr (.inl present₂)),
      if_neg fun listed => ((listed₂ k₁).mp listed).elim present₁ different, List.map_append]
    simp [freshKey₁, different]
  · rw [if_neg fun listed => ((listed₁ k₂).mp listed).elim present₂ (Ne.symm different),
      if_neg fun listed => ((listed₂ k₁).mp listed).elim present₁ different,
      List.append_assoc, List.append_assoc]
    exact List.Perm.append_left _ (List.Perm.swap _ _ [])

/-- Two updates on one key that a projection cannot tell apart give lists it cannot tell
apart. -/
theorem map_upsert_congr {γ : Type} {f : α → γ} {change' : α → α} {fresh' : α}
    (sameChange : ∀ x, f (change x) = f (change' x)) (sameFresh : f fresh = f fresh')
    (values : List α) :
    (upsert key k change fresh values).map f = (upsert key k change' fresh' values).map f := by
  unfold upsert
  split
  · simp only [List.map_map]
    exact List.map_congr_left fun x _ => by
      simp only [Function.comp_apply]; split <;> simp [sameChange]
  · simp [sameFresh]

/-- A second update on the same key acts on what the first left: the first's
change followed by the second's, or the second's change of what the first
appended. -/
theorem upsert_upsert {change₁ change₂ : α → α} {fresh₁ fresh₂ : α}
    (keep₁ : ∀ x, key x = k → key (change₁ x) = k) (freshKey₁ : key fresh₁ = k) (values : List α) :
    upsert key k change₂ fresh₂ (upsert key k change₁ fresh₁ values) =
      upsert key k (change₂ ∘ change₁) (change₂ fresh₁) values := by
  have listed := (mem_keys_upsert keep₁ freshKey₁ values k).mpr (.inr rfl)
  unfold upsert at listed ⊢
  rw [if_pos listed]
  split
  · rw [List.map_map]
    exact List.map_congr_left fun x _ => by
      simp only [Function.comp_apply]; split <;> simp [keep₁, *]
  · rename_i absent
    have others : ∀ x ∈ values, key x ≠ k := fun x member same =>
      absent (same ▸ List.mem_map_of_mem key member)
    rw [List.map_append, List.map_singleton, if_pos freshKey₁]
    congr 1
    exact (List.map_congr_left fun x member => if_neg (others x member)).trans (List.map_id _)

end Upsert

end SuperfluidAragon.Foundation
