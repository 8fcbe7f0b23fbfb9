import FusionGuards.Fuser.Environment
import Mathlib.Data.List.Forall2
import Mathlib.Data.List.TakeWhile

namespace FusionGuards

namespace Text

def Padded (s body : List Char) : Prop :=
  ∃ before after, s = before ++ body ++ after ∧ (∀ c ∈ before, isBlank c) ∧ ∀ c ∈ after, isBlank c

def Recased (c d : Char) : Prop :=
  c = d ∨ (c.isUpper ∧ d.toNat = c.toNat + 32) ∨ (d.isUpper ∧ c.toNat = d.toNat + 32)

section Trim

variable {s body : List Char}

theorem trim_eq_self (full : ∀ c ∈ s, ¬isBlank c) : trim s = s := by
  have front : s.dropWhile isBlank = s := List.dropWhile_eq_self_iff.2 fun inside => full _ (List.getElem_mem inside)
  have back : s.reverse.dropWhile isBlank = s.reverse :=
    List.dropWhile_eq_self_iff.2 fun inside => full _ (List.mem_reverse.1 (List.getElem_mem inside))
  rw [trim, front, back, List.reverse_reverse]

theorem padded_trim (s : List Char) : Padded s (trim s) := by
  refine ⟨s.takeWhile isBlank, ((s.dropWhile isBlank).reverse.takeWhile isBlank).reverse, ?_,
    fun c => List.mem_takeWhile_imp, fun c hc => List.mem_takeWhile_imp (List.mem_reverse.1 hc)⟩
  rw [List.append_assoc, trim, ← List.reverse_append, List.takeWhile_append_dropWhile, List.reverse_reverse,
    List.takeWhile_append_dropWhile]

theorem Padded.trim_eq (h : Padded s body) : trim s = trim body := by
  obtain ⟨before, after, rfl, blank_before, blank_after⟩ := h
  rw [trim, List.append_assoc, List.dropWhile_append_of_pos blank_before, List.dropWhile_append]
  split
  case isTrue empty =>
    rw [List.isEmpty_iff] at empty
    rw [trim, empty, List.dropWhile_eq_nil_iff.2 blank_after]
  case isFalse =>
    rw [List.reverse_append, List.dropWhile_append_of_pos (by simpa using blank_after)]
    rfl

/-- What stands between two characters that are no blanks is not taken for padding. -/
theorem Padded.mem_of_between (h : Padded s body) {i j k : Nat} {x b y : Char} (hij : i < j) (hjk : j < k)
    (first : s[i]? = some x) (inner : s[j]? = some b) (last : s[k]? = some y) (full_first : ¬isBlank x)
    (full_last : ¬isBlank y) : b ∈ body := by
  obtain ⟨before, after, rfl, blank_before, blank_after⟩ := h
  have start : before.length ≤ i := by
    by_contra outside
    rw [List.append_assoc, List.getElem?_append_left (by omega)] at first
    exact full_first (blank_before x (List.mem_of_getElem? first))
  have stop : k < (before ++ body).length := by
    by_contra outside
    rw [List.getElem?_append_right (by omega)] at last
    exact full_last (blank_after y (List.mem_of_getElem? last))
  rw [List.getElem?_append_left (by omega), List.getElem?_append_right (by omega)] at inner
  exact List.mem_of_getElem? inner

end Trim

section Case

variable {c d : Char}

theorem isUpper_iff : c.isUpper ↔ 65 ≤ c.toNat ∧ c.toNat ≤ 90 := by
  change decide ('A'.val ≤ c.val ∧ c.val ≤ 'Z'.val) = true ↔ _
  rw [decide_eq_true_iff, UInt32.le_iff_toNat_le, UInt32.le_iff_toNat_le]
  rfl

theorem toNat_toLower (c : Char) : c.toLower.toNat = if c.isUpper then c.toNat + 32 else c.toNat := by
  delta Char.toLower
  split
  case isTrue upper =>
    have isUpper : c.isUpper := decide_eq_true upper
    have range := isUpper_iff.1 isUpper
    rw [if_pos isUpper]
    change (c.val + 32).toNat = c.toNat + 32
    rw [UInt32.toNat_add]
    change (c.toNat + 32) % _ = _
    omega
  case isFalse plain =>
    have notUpper : ¬c.isUpper := fun isUpper => plain (of_decide_eq_true isUpper)
    rw [if_neg notUpper]

theorem recased_iff : Recased c d ↔ c.toLower = d.toLower := by
  simp only [Recased, ← Char.toNat_inj, toNat_toLower, isUpper_iff]
  split <;> split <;> omega

theorem not_isBlank (above : 0x20 < c.toNat) (below : c.toNat < 0x85) : ¬isBlank c := by
  have outside : ∀ r ∈ blankRanges, r.2 ≤ 0x20 ∨ 0x85 ≤ r.1 := by decide
  rw [isBlank, inRanges_eq_true_iff]
  rintro ⟨r, hr, lower, upper⟩
  have := outside r hr
  omega

@[simp] theorem isBlank_toLower (c : Char) : isBlank c.toLower = isBlank c := by
  have lower := toNat_toLower c
  split at lower
  case isTrue upper =>
    have range := isUpper_iff.1 upper
    rw [Bool.eq_false_iff.2 (not_isBlank (c := c.toLower) (by omega) (by omega)),
      Bool.eq_false_iff.2 (not_isBlank (c := c) (by omega) (by omega))]
  case isFalse => rw [Char.toNat_inj.1 lower]

theorem forall₂_recased_iff {s t : List Char} :
    List.Forall₂ Recased s t ↔ s.map Char.toLower = t.map Char.toLower := by
  have same : Recased = fun c d => c.toLower = d.toLower := funext fun c => funext fun d => propext recased_iff
  rw [same, ← List.forall₂_eq_eq_eq, List.forall₂_map_left_iff, List.forall₂_map_right_iff]

theorem trim_map_toLower (s : List Char) : trim (s.map Char.toLower) = (trim s).map Char.toLower := by
  have blank : isBlank ∘ Char.toLower = isBlank := funext isBlank_toLower
  simp only [trim, List.dropWhile_map, ← List.map_reverse, blank]

end Case

end Text

namespace Switch

open Text

/-- A text is that of a word if it has the letters of the word, in either case, and blanks around them. -/
def Spells (s w : String) : Prop := ∃ body, Padded s.toList body ∧ List.Forall₂ Recased body w.toList

def Plain (w : String) : Prop := ∀ c ∈ w.toList, 0x20 < c.toNat ∧ c.toNat < 0x80 ∧ c.toLower = c

theorem Plain.map_toLower {w : String} (plain : Plain w) : w.toList.map Char.toLower = w.toList :=
  (List.map_congr_left fun c hc => (plain c hc).2.2).trans (List.map_id _)

theorem plain_of_mem {w : String} (h : w ∈ onWords ++ offWords) : Plain w := by
  simp only [onWords, offWords, List.cons_append, List.nil_append, List.mem_cons, List.not_mem_nil, or_false] at h
  rcases h with rfl | rfl | rfl | rfl | rfl | rfl | rfl | rfl <;> simp [Plain]

section Word

variable {s t w : String}

namespace Spells

variable (plain : Plain w) (h : Spells s w)

include plain h

theorem exists_body : ∃ body, Padded s.toList body ∧ body.map Char.toLower = w.toList ∧
    ∀ c ∈ body, ¬isBlank c ∧ c.toNat < 0x80 := by
  obtain ⟨body, padded, recased⟩ := h
  have letters : body.map Char.toLower = w.toList := (forall₂_recased_iff.1 recased).trans plain.map_toLower
  refine ⟨body, padded, letters, fun c hc => ?_⟩
  obtain ⟨above, below, -⟩ := plain c.toLower (letters ▸ List.mem_map_of_mem hc)
  rw [← isBlank_toLower]
  refine ⟨not_isBlank above (by omega), ?_⟩
  rw [toNat_toLower] at below
  split at below <;> omega

theorem ascii : ∀ c ∈ s.toList, isBlank c ∨ c.toNat < 0x80 := by
  obtain ⟨body, ⟨before, after, split, blank_before, blank_after⟩, -, inside⟩ := h.exists_body plain
  intro c hc
  rw [split, List.mem_append, List.mem_append] at hc
  obtain (hc | hc) | hc := hc
  · exact .inl (blank_before c hc)
  · exact .inr (inside c hc).2
  · exact .inl (blank_after c hc)

end Spells

theorem word_eq_iff_spells (plain : Plain w) : word s = w ↔ Spells s w := by
  constructor
  · intro same
    refine ⟨trim s.toList, padded_trim _, forall₂_recased_iff.2 ?_⟩
    rw [plain.map_toLower, ← same, word, String.toList_ofList]
  · intro h
    obtain ⟨body, padded, letters, inside⟩ := h.exists_body plain
    rw [word, padded.trim_eq, trim_eq_self fun c hc => (inside c hc).1, letters, String.ofList_toList]

theorem word_mem_iff {words : List String} (plain : ∀ w ∈ words, Plain w) :
    word s ∈ words ↔ ∃ w ∈ words, Spells s w := by
  constructor
  · intro mem
    exact ⟨word s, mem, (word_eq_iff_spells (plain _ mem)).1 rfl⟩
  · rintro ⟨w, mem, spells⟩
    exact (word_eq_iff_spells (plain w mem)).2 spells ▸ mem

theorem word_of_padded (h : Padded t.toList s.toList) : word t = word s := by
  rw [word, word, h.trim_eq]

theorem word_of_recased (h : List.Forall₂ Recased t.toList s.toList) : word t = word s := by
  rw [word, word, ← trim_map_toLower, ← trim_map_toLower, forall₂_recased_iff.1 h]

theorem toggle?_eq_true_iff : toggle? s = some true ↔ ∃ w ∈ onWords, Spells s w := by
  rw [← word_mem_iff fun w hw => plain_of_mem (List.mem_append_left _ hw), toggle?]
  split
  · simpa
  · split <;> simpa

theorem toggle?_eq_false_iff : toggle? s = some false ↔ ∃ w ∈ offWords, Spells s w := by
  have apart : ∀ w ∈ onWords, w ∉ offWords := by decide
  rw [← word_mem_iff fun w hw => plain_of_mem (List.mem_append_right _ hw), toggle?]
  split
  case isTrue on => simpa using apart _ on
  case isFalse => split <;> simpa

theorem toggle?_eq_none_iff : toggle? s = none ↔ ¬∃ w ∈ onWords ++ offWords, Spells s w := by
  rw [← word_mem_iff fun w => plain_of_mem, List.mem_append, not_or, toggle?]
  split
  case isTrue on => simp [on]
  case isFalse => split <;> simp [*]

theorem toggle?_congr (h : word t = word s) : toggle? t = toggle? s := by rw [toggle?, toggle?, h]

end Word

/-- A switch is on or off as it is spelled, and what spells neither is refused. The other two vocabularies agree with
it where they are sure of themselves. -/
theorem toggle?_spelled (s : String) :
    (toggle? s = some true ↔ ∃ w ∈ ["1", "on", "true", "yes"], Spells s w) ∧
    (toggle? s = some false ↔ ∃ w ∈ ["0", "off", "false", "no"], Spells s w) ∧
    (toggle? s = none ↔ ¬∃ w ∈ ["1", "on", "true", "yes"] ++ ["0", "off", "false", "no"], Spells s w) ∧
    (∀ c ∈ s.toList, ¬isBlank c → 0x80 ≤ c.toNat → toggle? s = none) ∧
    (∀ (i j k : Nat) (x b y : Char), i < j → j < k → s.toList[i]? = some x → s.toList[j]? = some b →
      s.toList[k]? = some y → ¬isBlank x → isBlank b → ¬isBlank y → toggle? s = none) ∧
    (∀ t : String, Padded t.toList s.toList → toggle? t = toggle? s) ∧
    (∀ t : String, List.Forall₂ Recased t.toList s.toList → toggle? t = toggle? s) ∧
    (forces s = true → enables s = true ∧ toggle? s = some true) ∧
    (enables s = false → toggle? s = some false ∧ forces s = false) := by
  refine ⟨toggle?_eq_true_iff, toggle?_eq_false_iff, toggle?_eq_none_iff, ?foreign, ?inner,
    fun t h => toggle?_congr (word_of_padded h), fun t h => toggle?_congr (word_of_recased h), ?forced, ?disabled⟩
  case foreign =>
    intro c mem full wide
    rw [toggle?_eq_none_iff]
    rintro ⟨w, known, spells⟩
    obtain blank | ascii := spells.ascii (plain_of_mem known) c mem
    · exact full blank
    · omega
  case inner =>
    intro i j k x b y hij hjk first inner last full_first blank full_last
    rw [toggle?_eq_none_iff]
    rintro ⟨w, known, spells⟩
    obtain ⟨body, padded, -, inside⟩ := spells.exists_body (plain_of_mem known)
    exact (inside b (padded.mem_of_between hij hjk first inner last full_first full_last)).1 blank
  case forced =>
    intro forced
    obtain rfl | rfl : s = "1" ∨ s = "ON" := by simpa [forces] using forced
    · decide
    · decide
  case disabled =>
    intro disabled
    obtain rfl | rfl : s = "0" ∨ s = "OFF" := by
      simpa [enables, Classical.or_iff_not_imp_left] using disabled
    · decide
    · decide

theorem toggle?_spelled_lookalike :
    Padded "\u00a0oN\u3000".toList "oN".toList ∧ List.Forall₂ Recased "oN".toList "on".toList ∧
      toggle? "\u00a0oN\u3000" = some true ∧ toggle? "o\u00a0n" = none ∧ toggle? "\u043en" = none := by
  have padded : Padded "\u00a0oN\u3000".toList "oN".toList :=
    ⟨['\u00a0'], ['\u3000'], rfl, List.forall_mem_singleton.2 (by decide), List.forall_mem_singleton.2 (by decide)⟩
  have recased : List.Forall₂ Recased "oN".toList "on".toList := forall₂_recased_iff.2 (by decide)
  obtain ⟨-, -, -, -, -, around, -⟩ := toggle?_spelled "oN"
  obtain ⟨on, -, -, -, -, -, cased, -⟩ := toggle?_spelled "on"
  obtain ⟨-, -, -, -, inner, -⟩ := toggle?_spelled "o\u00a0n"
  obtain ⟨-, -, -, foreign, -⟩ := toggle?_spelled "\u043en"
  have spelled : Spells "on" "on" := ⟨"on".toList, ⟨[], [], rfl, by simp, by simp⟩, forall₂_recased_iff.2 rfl⟩
  refine ⟨padded, recased, ?_, ?_, ?_⟩
  · rw [around _ padded, cased _ recased]
    exact on.2 ⟨"on", by decide, spelled⟩
  · exact inner 0 1 2 'o' '\u00a0' 'n' Nat.zero_lt_one Nat.one_lt_two rfl rfl rfl (by decide) (by decide) (by decide)
  · exact foreign '\u043e' (by decide) (by decide) (by decide)

end Switch

end FusionGuards
