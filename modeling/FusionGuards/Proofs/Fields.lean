import FusionGuards.Json.Record
import Mathlib.Data.List.Nodup

namespace FusionGuards.Json

theorem member?_record {ms : List (String × Json)} (distinct : (ms.map (·.1)).Nodup) {m : String × Json}
    (mem : m ∈ ms) : member? (ms.map fun m => (some m.1, m.2)) m.1 = some m.2 := by
  induction ms with
  | nil => cases mem
  | cons first rest ih =>
    rw [List.map_cons, List.nodup_cons] at distinct
    obtain rfl | mem := List.mem_cons.1 mem
    · simp [member?]
    · have other : m.1 ≠ first.1 := by
        intro same
        exact distinct.1 (same ▸ List.mem_map_of_mem mem)
      have skipped : (some m.1 == some first.1) = false := by simpa using other
      rw [List.map_cons, member?, List.lookup_cons, skipped]
      exact ih distinct.2 mem

theorem occurrences_record_le {ms : List (String × Json)} (distinct : (ms.map (·.1)).Nodup) (name : String) :
    occurrences (ms.map fun m => (some m.1, m.2)) name ≤ 1 := by
  have count : occurrences (ms.map fun m => (some m.1, m.2)) name = (ms.map (·.1)).count name := by
    rw [occurrences, List.count, List.countP_map, List.countP_map]
    refine List.countP_congr fun m _ => ?_
    simp
  rw [count]
  exact List.nodup_iff_count_le_one.1 distinct name

@[simp] theorem fields_record {names : List String} {ms : List (String × Json)} (named : ms.map (·.1) = names)
    (distinct : names.Nodup) (least : Nat) :
    fields names least (.record ms) = some (ms.map fun m => some m.2) := by
  subst named
  have known : (ms.map fun m => (some m.1, m.2)).any (fun m : Str × Json => m.1.isNone) = false := by simp
  have single : ((ms.map (·.1)).any fun name =>
      decide (1 < occurrences (ms.map fun m => (some m.1, m.2)) name)) = false := by
    rw [List.any_eq_false]
    intro name _
    simpa using occurrences_record_le distinct name
  rw [record, fields, known, single]
  simp only [Bool.false_eq_true, ↓reduceIte, List.map_map, Option.some.injEq]
  refine List.map_congr_left fun m mem => ?_
  exact member?_record distinct mem

@[simp] theorem variant_text (name : String) : variant (.text name) = some (name, none) := rfl

@[simp] theorem variant_record (name : String) (content : Json) :
    variant (.record [(name, content)]) = some (name, some content) := rfl

@[simp] theorem required_some (f : Json → Option α) (j : Json) : required f (some j) = f j := rfl

@[simp] theorem defaulted_some (d : α) (f : Json → Option α) (j : Json) : defaulted d f (some j) = f j := rfl

@[simp] theorem toBool?_bool (b : Bool) : toBool? (.bool b) = some b := rfl

@[simp] theorem toString?_text (s : String) : toString? (.text s) = some s := rfl

theorem toNat?_nat (bound n : Nat) : toNat? bound (.nat n) = if n < bound then some n else none := by
  rw [toNat?, nat, toInt?, Number.toInt?_ofInt]
  rfl

@[simp] theorem toWord?_ofWord (a : Int64) : toWord? (.ofWord a) = some a := by
  rw [toWord?, ofWord, int, toInt?, Number.toInt?_ofInt]
  exact Word.ofInt?_toInt a

@[simp] theorem toList?_ofList_iff {f : Json → Option α} {g : α → Json} {xs : List α} :
    toList? f (.ofList g xs) = some xs ↔ ∀ x ∈ xs, f (g x) = some x := by
  change (xs.map g).mapM f = some xs ↔ _
  induction xs with
  | nil => simp
  | cons x xs ih => simp [List.mapM_cons, Option.bind_eq_some_iff, ← ih]

@[simp] theorem nullable_ofOption_iff {f : Json → Option α} {g : α → Json} {o : Option α}
    (there : ∀ a, g a ≠ .null) : nullable f (some (ofOption g o)) = some o ↔ ∀ a ∈ o, f (g a) = some a := by
  cases o with
  | none => simp [ofOption, nullable]
  | some a =>
    have read : nullable f (some (g a)) = (f (g a)).map some := by
      rw [nullable]
      simpa using there a
    simp [ofOption, read]

@[simp] theorem orNull_ofOption_iff {f : Json → Option α} {g : α → Json} {o : Option α}
    (there : ∀ a, g a ≠ .null) : orNull f (ofOption g o) = some o ↔ ∀ a ∈ o, f (g a) = some a :=
  nullable_ofOption_iff there

@[simp] theorem toIndex?_nat_iff {n : Nat} : toIndex? (.nat n) = some n ↔ n < indexBound := by
  simp [toIndex?, toNat?_nat]

@[simp] theorem toWords?_ofWords (xs : List Int64) : toWords? (.ofWords xs) = some xs := by
  rw [toWords?, ofWords, toList?_ofList_iff]
  exact fun x _ => toWord?_ofWord x

@[simp] theorem nat_ne_null (n : Nat) : nat n ≠ .null := by simp [nat]

@[simp] theorem ofWord_ne_null (a : Int64) : ofWord a ≠ .null := by simp [ofWord, int]

@[simp] theorem ofList_ne_null (f : α → Json) (xs : List α) : ofList f xs ≠ .null := by simp [ofList]

@[simp] theorem ofWords_ne_null (xs : List Int64) : ofWords xs ≠ .null := by simp [ofWords]

end FusionGuards.Json
