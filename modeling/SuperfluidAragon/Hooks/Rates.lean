import SuperfluidAragon.Foundation.List
import Mathlib.Data.List.Nodup

/-! The rates object of the convert-rates poller, and the normalization a successful fetch
applies to the response before `setRates` (src/app/src/hooks/useConvertRates.js,
lines 32–35): every key lower-cased, a later key overwriting an earlier one that
lower-cases alike. -/

namespace SuperfluidAragon.ConvertRates

open Foundation

/-- A rates object: one entry per key, in key order, with the values as the response has
them. -/
structure Rates where
  entries : List (String × String)
  deriving DecidableEq, Repr

/-- The `reduce` callback: `newRates[key.toLowerCase()] = rates[key]`. Assigning an
existing key keeps its place, a new key goes last. -/
def assignLowerCased (newRates : List (String × String)) (entry : String × String) :
    List (String × String) :=
  upsert Prod.fst entry.1.toLower (fun _ => (entry.1.toLower, entry.2))
    (entry.1.toLower, entry.2) newRates

/-- `Object.keys(rates).reduce(assignLowerCased, {})`. -/
def normalizeRates (rates : Rates) : Rates :=
  ⟨rates.entries.foldl assignLowerCased []⟩

theorem find?_assignLowerCased (newRates : List (String × String)) (entry : String × String)
    (k : String) :
    (assignLowerCased newRates entry).find? (·.1 = k) =
      if entry.1.toLower = k then some (k, entry.2) else newRates.find? (·.1 = k) := by
  rw [assignLowerCased,
    @find?_upsert_const _ _ _ Prod.fst entry.1.toLower (entry.1.toLower, entry.2) rfl]
  split
  · subst k; rfl
  · rfl

/-- After the `reduce`, key `k` holds the value of the last key that lower-cases to `k`, if
there is one. -/
theorem find?_foldl_assignLowerCased (k : String) :
    ∀ (entries newRates : List (String × String)),
      (entries.foldl assignLowerCased newRates).find? (·.1 = k) =
        ((entries.reverse.find? (·.1.toLower = k)).map fun entry => (k, entry.2)).or
          (newRates.find? (·.1 = k))
  | [], newRates => by simp
  | entry :: rest, newRates => by
    rw [List.foldl_cons, find?_foldl_assignLowerCased k rest, find?_assignLowerCased,
      List.reverse_cons, List.find?_append]
    cases rest.reverse.find? (·.1.toLower = k) <;> by_cases same : entry.1.toLower = k <;>
      simp [same]

theorem keys_nodup_foldl_assignLowerCased :
    ∀ (entries newRates : List (String × String)), (newRates.map Prod.fst).Nodup →
      ((entries.foldl assignLowerCased newRates).map Prod.fst).Nodup
  | [], _, distinct => distinct
  | entry :: rest, newRates, distinct => by
    refine keys_nodup_foldl_assignLowerCased rest _ ?_
    rw [assignLowerCased, @keys_upsert _ _ _ Prod.fst entry.1.toLower (fun _ => (entry.1.toLower, entry.2))
      (entry.1.toLower, entry.2) (fun _ _ => rfl) rfl]
    split
    · exact distinct
    · exact distinct.append (List.nodup_singleton _) (List.disjoint_singleton.mpr ‹_›)

/-- The normalized rates have one entry per key, and at each lower-cased key of the response
the value of the last response key that lower-cases to it. -/
theorem normalizeRates_lowercases_keys (rates : Rates) :
    ((normalizeRates rates).entries.map Prod.fst).Nodup ∧
      ∀ k, (normalizeRates rates).entries.find? (·.1 = k) =
        (rates.entries.reverse.find? (·.1.toLower = k)).map fun entry => (k, entry.2) :=
  ⟨keys_nodup_foldl_assignLowerCased _ _ List.nodup_nil, fun k => by
    simp [normalizeRates, find?_foldl_assignLowerCased, Option.or_none]⟩

end SuperfluidAragon.ConvertRates
