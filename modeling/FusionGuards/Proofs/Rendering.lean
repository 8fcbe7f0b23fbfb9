import FusionGuards.Json.Reader
import FusionGuards.Json.Record
import FusionGuards.Json.Writer
import Mathlib.Data.Nat.Digits.Defs

namespace FusionGuards.Json

structure Number.Whole (n : Number) : Prop where
  fraction : n.fraction = []
  exponent : n.exponent = none

mutual

def Whole : Json → Prop
  | number n => n.Whole
  | array es => WholeAll es
  | object ms => WholeMembers ms
  | _ => True

def WholeAll : List Json → Prop
  | [] => True
  | j :: js => Whole j ∧ WholeAll js

def WholeMembers : List (Str × Json) → Prop
  | [] => True
  | (_, j) :: ms => Whole j ∧ WholeMembers ms

end

namespace Token

/-- What may follow a number: nothing, or a character that does not go on with it. -/
def Ends (rest : List Char) : Prop := ∀ c ∈ rest.head?, c.isDigit = false ∧ c ≠ '.' ∧ c ≠ 'e' ∧ c ≠ 'E'

section Numbers

variable {rest : List Char}

theorem ends_cons {c : Char} (other : c.isDigit = false ∧ c ≠ '.' ∧ c ≠ 'e' ∧ c ≠ 'E') : Ends (c :: rest) := by
  rintro _ ⟨⟩
  exact other

theorem takeWhile_append_ends {ds : List Char} (all : ∀ d ∈ ds, d.isDigit = true) (ends : Ends rest) :
    (ds ++ rest).takeWhile Char.isDigit = ds ∧ (ds ++ rest).dropWhile Char.isDigit = rest := by
  induction ds with
  | nil =>
    cases rest with
    | nil => exact ⟨rfl, rfl⟩
    | cons c rest => simp [(ends c rfl).1]
  | cons d ds ih =>
    obtain ⟨head, tail⟩ := List.forall_mem_cons.1 all
    simpa [head] using ih tail

theorem fraction_of_ends (ends : Ends rest) : fraction rest = some ([], rest) := by
  cases rest with
  | nil => rfl
  | cons c rest =>
    obtain ⟨-, point, -⟩ := ends c rfl
    rw [fraction]
    rintro s ⟨⟩
    exact point rfl

theorem exponent_of_ends (ends : Ends rest) : exponent rest = some (none, rest) := by
  cases rest with
  | nil => rfl
  | cons c rest =>
    obtain ⟨-, -, small, large⟩ := ends c rfl
    simp [exponent, small, large]

theorem toDigits_head_ne_zero {n : Nat} (pos : 0 < n) {d : Char} {ds : List Char}
    (digits : Nat.toDigits 10 n = d :: ds) : d ≠ '0' := by
  induction n using Nat.strongRecOn generalizing ds with
  | ind n ih =>
    by_cases small : n < 10
    · rw [Nat.toDigits_of_lt_base small] at digits
      obtain rfl : n.digitChar = d := (List.cons.inj digits).1
      intro zero
      have code : n.digitChar.toNat = 48 := congrArg Char.toNat zero
      rw [Nat.toNat_digitChar_of_lt_ten small] at code
      omega
    · rw [Nat.toDigits_of_base_le (by decide) (not_lt.1 small)] at digits
      cases front : Nat.toDigits 10 (n / 10) with
      | nil => exact absurd front Nat.toDigits_ne_nil
      | cons c cs =>
        rw [front] at digits
        obtain rfl : c = d := (List.cons.inj digits).1
        exact ih (n / 10) (by omega) (by omega) front

theorem numeral_toDigits {n : Nat} {d : Char} {ds : List Char} (written : Nat.toDigits 10 n = d :: ds)
    (ends : Ends rest) (negative : Bool) :
    numeral negative d (ds ++ rest) = some (⟨negative, n, [], none⟩, rest) := by
  have all : ∀ c ∈ d :: ds, c.isDigit = true := fun c mem =>
    Nat.isDigit_of_mem_toDigits (by decide) (by decide) (written ▸ mem)
  obtain ⟨taken, left⟩ := takeWhile_append_ends (List.forall_mem_cons.1 all).2 ends
  have leading : ¬(d = '0' ∧ digits (ds ++ rest) ≠ []) := by
    rintro ⟨rfl, more⟩
    obtain rfl | pos := Nat.eq_zero_or_pos n
    · rw [Nat.toDigits_zero] at written
      obtain rfl : [] = ds := (List.cons.inj written).2
      exact more (by rw [digits, taken, List.map_nil])
    · exact toDigits_head_ne_zero pos written rfl
  have value : ofDigits (digit d :: digits (ds ++ rest)) = n := by
    rw [digits, taken, ← List.map_cons, ofDigits, List.foldl_map, ← written]
    exact Nat.ofDigitChars_eq_foldl.symm.trans Nat.ofDigitChars_ten_toDigits
  rw [numeral, if_neg leading, value, afterDigits, left, fraction_of_ends ends]
  simp [exponent_of_ends ends]

end Numbers

section Strings

theorem units_escape (c : Char) (s : List Char) :
    units (escape c ++ s) = (units s).map fun r => (c.toNat :: r.1, r.2) := by
  unfold escape
  split
  case h_8 quote backslash _ _ _ _ _ =>
    split
    case isTrue control =>
      have digits : ∀ n < 0x20,
          Text.ofHex? ['0', '0', Text.hexDigit (n / 16), Text.hexDigit (n % 16)] = some n := by decide
      simp [units, digits c.toNat control, Option.map_eq_bind]
    case isFalse control =>
      have plain : units (c :: s) = (units s).bind fun r => some (c.toNat :: r.1, r.2) := by
        rw [units, if_neg control]
        · rfl
        · exact quote
        · rintro a b c' d s' rfl
          exact fun _ => backslash rfl
        · rintro e s' rfl
          exact fun _ => backslash rfl
      rw [List.singleton_append, plain, Option.map_eq_bind]
      rfl
  all_goals simp [units, escape?, Option.map_eq_bind]

theorem units_flatMap_escape (cs rest : List Char) :
    units (cs.flatMap escape ++ '"' :: rest) = some (cs.map Char.toNat, rest) := by
  induction cs with
  | nil => simp [units]
  | cons c cs ih => simp [List.append_assoc, units_escape, ih]

theorem isHigh_toNat (c : Char) : isHigh c.toNat = false := by
  have valid := c.valid
  simp only [isHigh, Bool.and_eq_false_imp, decide_eq_true_eq, decide_eq_false_iff_not]
  change c.toNat < 0xd800 ∨ 0xdfff < c.toNat ∧ c.toNat < 0x110000 at valid
  omega

theorem scalar?_toNat (c : Char) : scalar? c.toNat = some c := by
  have valid := c.valid
  have low : isLow c.toNat = false := by
    simp only [isLow, Bool.and_eq_false_imp, decide_eq_true_eq, decide_eq_false_iff_not]
    change c.toNat < 0xd800 ∨ 0xdfff < c.toNat ∧ c.toNat < 0x110000 at valid
    omega
  rw [scalar?, isHigh_toNat, low]
  simp

theorem characters?_map_toNat (cs : List Char) : characters? (cs.map Char.toNat) = some cs := by
  induction cs with
  | nil => rfl
  | cons c cs ih =>
    cases cs with
    | nil => simp [characters?, scalar?_toNat]
    | cons d cs =>
      rw [List.map_cons] at ih
      simp [characters?, isHigh_toNat, scalar?_toNat, ih]

theorem next_quote (s : Str) (rest : List Char) :
    ∃ body, (quote s).toList ++ rest = '"' :: body ∧ next '"' body = some (.string s, rest) := by
  cases s with
  | none =>
    exact ⟨_, rfl, rfl⟩
  | some s =>
    refine ⟨s.toList.flatMap escape ++ '"' :: rest, by simp [quote], ?_⟩
    simp [next, units_flatMap_escape, characters?_map_toNat]

end Strings

theorem scan_cons {c : Char} (visible : isBlank c = false) (s : List Char) :
    scan (c :: s) = (next c s).bind fun r => (scan r.2).map (r.1 :: ·) := by
  rw [scan, visible]
  simp only [Bool.false_eq_true, ↓reduceIte]
  split <;> simp_all

theorem next_of_isDigit {c : Char} (digit : c.isDigit = true) (s : List Char) :
    next c s = (numeral false c s).map fun r => (.number r.1, r.2) := by
  unfold next
  split
  case h_12 => rw [if_pos digit]
  all_goals exact absurd digit (by decide)

theorem isBlank_of_isDigit {c : Char} (digit : c.isDigit = true) : isBlank c = false := by
  rw [isBlank, Bool.or_eq_false_iff, Bool.or_eq_false_iff, Bool.or_eq_false_iff]
  refine ⟨⟨⟨?_, ?_⟩, ?_⟩, ?_⟩ <;> rw [beq_eq_false_iff_ne] <;> rintro rfl <;> cases digit

theorem eq_of_next_eq_closeBracket {c : Char} {s r : List Char} (h : next c s = some (.closeBracket, r)) :
    c = ']' := by
  unfold next at h
  split at h
  case h_4 => rfl
  all_goals simp at h

end Token

namespace Number

theorem render_integer (negative : Bool) (n : Nat) :
    (render ⟨negative, n, [], none⟩).toList = (if negative then ['-'] else []) ++ Nat.toDigits 10 n := by
  cases negative <;> simp [render]

theorem next_render {n : Number} (whole : n.Whole) :
    ∃ c s, n.render.toList = c :: s ∧ Token.isBlank c = false ∧ c ≠ ']' ∧
      ∀ {rest}, Token.Ends rest → Token.next c (s ++ rest) = some (.number n, rest) := by
  obtain ⟨negative, n, fraction, exponent⟩ := n
  obtain ⟨rfl : fraction = [], rfl : exponent = none⟩ := whole
  rw [render_integer]
  cases written : Nat.toDigits 10 n with
  | nil => exact absurd written Nat.toDigits_ne_nil
  | cons d ds =>
    have digit : d.isDigit = true :=
      Nat.isDigit_of_mem_toDigits (by decide) (by decide) (written ▸ List.mem_cons_self)
    cases negative with
    | true =>
      refine ⟨'-', d :: ds, rfl, rfl, by decide, fun ends => ?_⟩
      simp [Token.next, digit, Token.numeral_toDigits written ends]
    | false =>
      refine ⟨d, ds, rfl, ?_, ?_, fun ends => ?_⟩
      · exact Token.isBlank_of_isDigit digit
      · rintro rfl
        exact absurd digit (by decide)
      · rw [Token.next_of_isDigit digit, Token.numeral_toDigits written ends]
        rfl

end Number

theorem exists_toList_render {j : Json} (whole : Whole j) :
    ∃ c s, (render j).toList = c :: s ∧ Token.isBlank c = false ∧ c ≠ ']' := by
  cases j with
  | null => exact ⟨_, _, rfl, rfl, by decide⟩
  | bool b => cases b <;> exact ⟨_, _, rfl, rfl, by decide⟩
  | number n =>
    obtain ⟨c, s, written, visible, goesOn, -⟩ := n.next_render whole
    exact ⟨c, s, written, visible, goesOn⟩
  | string s =>
    obtain ⟨body, written, -⟩ := Token.next_quote s []
    rw [List.append_nil] at written
    exact ⟨_, _, written, rfl, by decide⟩
  | array es => exact ⟨'[', _, by rw [render, String.append_assoc, String.toList_append]; rfl, rfl, by decide⟩
  | object ms => exact ⟨'\x7b', _, by rw [render, String.append_assoc, String.toList_append]; rfl, rfl, by decide⟩

def later (texts : List String) : List Char := texts.flatMap fun t => ',' :: t.toList

@[simp] theorem later_nil : later [] = [] := rfl

@[simp] theorem later_cons (t : String) (texts : List String) :
    later (t :: texts) = ',' :: t.toList ++ later texts := rfl

theorem intercalate_cons (s : List Char) (texts : List String) :
    [','].intercalate (s :: texts.map String.toList) = s ++ later texts := by
  induction texts generalizing s with
  | nil => simp
  | cons t texts ih => simp [List.intercalate_cons_cons, ih]

theorem ends_later (texts : List String) {close : Char} (closes : close = ']' ∨ close = '\x7d') (rest : List Char) :
    Token.Ends (later texts ++ close :: rest) := by
  cases texts with
  | nil => obtain rfl | rfl := closes <;> exact Token.ends_cons (by decide)
  | cons t texts => exact Token.ends_cons (by decide)

namespace Reading

def resume (r : Reading) (s : List Char) : Option Reading := (Token.scan s).bind r.run

theorem resume_cons {c : Char} {s rest : List Char} {t : Token} (visible : Token.isBlank c = false)
    (next : Token.next c s = some (t, rest)) (r : Reading) :
    r.resume (c :: s) = (r.step t).bind (resume · rest) := by
  rw [resume, Token.scan_cons visible, next]
  cases scanned : Token.scan rest with
  | none => cases r.step t <;> simp [resume, scanned]
  | some ts =>
    simp only [Option.bind_some, Option.map_some, scanned]
    rw [run, List.foldlM_cons]
    cases r.step t <;> simp [resume, scanned, run]

theorem resume_nil (r : Reading) : r.resume [] = some r := by simp [resume, Token.scan, run]

theorem resume_token {c : Char} {s rest : List Char} {t : Token} {r r' : Reading} (visible : Token.isBlank c = false)
    (next : Token.next c s = some (t, rest)) (stepped : r.step t = some r') : r.resume (c :: s) = r'.resume rest := by
  rw [resume_cons visible next, stepped, Option.bind_some]

theorem step_elementOrEnd {t : Token} (goesOn : t ≠ .closeBracket) (frames : List Frame) :
    step (.elementOrEnd frames) t = step (.value (.array [] :: frames)) t := by
  cases t with
  | closeBracket => exact absurd rfl goesOn
  | _ => rfl

/-- Where an array may end, its first element may begin. -/
theorem resume_elementOrEnd {c : Char} (visible : Token.isBlank c = false) (goesOn : c ≠ ']') (frames : List Frame)
    (s : List Char) : resume (.elementOrEnd frames) (c :: s) = resume (.value (.array [] :: frames)) (c :: s) := by
  cases next : Token.next c s with
  | none => simp [resume, Token.scan_cons visible, next]
  | some r =>
    obtain ⟨t, rest⟩ := r
    have other : t ≠ .closeBracket := by
      rintro rfl
      exact goesOn (Token.eq_of_next_eq_closeBracket next)
    rw [resume_cons visible next, resume_cons visible next, step_elementOrEnd other]

theorem resume_member {j : Json} {k : Str} {frames : List Frame} {before : List (Str × Json)} {r : Reading}
    {rest : List Char} (keyed : r.step (.string k) = some (.colon frames before k))
    (value : resume (.value (.object before k :: frames)) ((render j).toList ++ rest) =
      resume (.done (.object before k :: frames) j) rest) :
    r.resume ((quote k).toList ++ ':' :: ((render j).toList ++ rest)) =
      resume (.done (.object before k :: frames) j) rest := by
  obtain ⟨body, written, next⟩ := Token.next_quote k (':' :: ((render j).toList ++ rest))
  rw [written]
  calc r.resume ('"' :: body)
    _ = resume (.colon frames before k) (':' :: ((render j).toList ++ rest)) := resume_token rfl next keyed
    _ = resume (.value (.object before k :: frames)) ((render j).toList ++ rest) := resume_token rfl rfl rfl
    _ = resume (.done (.object before k :: frames) j) rest := value

mutual

theorem resume_render : ∀ {j : Json}, Whole j → ∀ (frames : List Frame) {rest : List Char}, Token.Ends rest →
    resume (.value frames) ((render j).toList ++ rest) = resume (.done frames j) rest
  | .null, _, _, _, _ => resume_token (c := 'n') rfl rfl rfl
  | .bool true, _, _, _, _ => resume_token (c := 't') rfl rfl rfl
  | .bool false, _, _, _, _ => resume_token (c := 'f') rfl rfl rfl
  | .number n, whole, _, _, ends => by
    obtain ⟨c, s, written, visible, -, next⟩ := n.next_render whole
    rw [render, written]
    exact resume_token visible (next ends) rfl
  | .string s, _, _, rest, _ => by
    obtain ⟨body, written, next⟩ := Token.next_quote s rest
    rw [render, written]
    exact resume_token rfl next rfl
  | .array [], _, frames, rest, _ =>
    calc resume (.value frames) ('[' :: ']' :: rest)
      _ = resume (.elementOrEnd frames) (']' :: rest) := resume_token rfl rfl rfl
      _ = resume (.done frames (.array [])) rest := resume_token rfl rfl rfl
  | .array (j :: js), whole, frames, rest, _ => by
    have written : (render (.array (j :: js))).toList ++ rest =
        '[' :: ((render j).toList ++ (later (renderAll js) ++ ']' :: rest)) := by
      simp [render, renderAll, intercalate_cons]
    -- The reader cannot tell yet whether the array ends, so the first character of its first element has to show.
    obtain ⟨c, s, first, visible, goesOn⟩ := exists_toList_render whole.1
    rw [written]
    calc resume (.value frames) ('[' :: ((render j).toList ++ (later (renderAll js) ++ ']' :: rest)))
      _ = resume (.elementOrEnd frames) ((render j).toList ++ (later (renderAll js) ++ ']' :: rest)) :=
        resume_token rfl rfl rfl
      _ = resume (.value (.array [] :: frames)) ((render j).toList ++ (later (renderAll js) ++ ']' :: rest)) := by
        rw [first]
        exact resume_elementOrEnd visible goesOn frames _
      _ = resume (.done (.array [] :: frames) j) (later (renderAll js) ++ ']' :: rest) :=
        resume_render whole.1 _ (ends_later _ (.inl rfl) rest)
      _ = resume (.done frames (.array (j :: js))) rest := resume_renderAll whole.2 [] j frames rest
  | .object [], _, frames, rest, _ =>
    calc resume (.value frames) ('\x7b' :: '\x7d' :: rest)
      _ = resume (.keyOrEnd frames) ('\x7d' :: rest) := resume_token rfl rfl rfl
      _ = resume (.done frames (.object [])) rest := resume_token rfl rfl rfl
  | .object ((k, j) :: ms), whole, frames, rest, _ => by
    have written : (render (.object ((k, j) :: ms))).toList ++ rest =
        '\x7b' :: ((quote k).toList ++ ':' :: ((render j).toList ++ (later (renderMembers ms) ++ '\x7d' :: rest))) := by
      simp [render, renderMembers, intercalate_cons]
    rw [written]
    calc resume (.value frames) ('\x7b' :: ((quote k).toList ++ ':' ::
          ((render j).toList ++ (later (renderMembers ms) ++ '\x7d' :: rest))))
      _ = resume (.keyOrEnd frames) ((quote k).toList ++ ':' ::
          ((render j).toList ++ (later (renderMembers ms) ++ '\x7d' :: rest))) := resume_token rfl rfl rfl
      _ = resume (.done (.object [] k :: frames) j) (later (renderMembers ms) ++ '\x7d' :: rest) :=
        resume_member rfl (resume_render whole.1 _ (ends_later _ (.inr rfl) rest))
      _ = resume (.done frames (.object ((k, j) :: ms))) rest := resume_renderMembers whole.2 [] k j frames rest

theorem resume_renderAll : ∀ {js : List Json}, WholeAll js → ∀ (before : List Json) (v : Json) (frames : List Frame)
    (rest : List Char), resume (.done (.array before :: frames) v) (later (renderAll js) ++ ']' :: rest) =
      resume (.done frames (.array (before.reverse ++ v :: js))) rest
  | [], _, before, v, frames, rest => by
    rw [← List.reverse_cons]
    exact resume_token rfl rfl rfl
  | j :: js, whole, before, v, frames, rest => by
    rw [renderAll, later_cons, List.cons_append, List.cons_append, List.append_assoc]
    calc resume (.done (.array before :: frames) v)
          (',' :: ((render j).toList ++ (later (renderAll js) ++ ']' :: rest)))
      _ = resume (.value (.array (v :: before) :: frames))
          ((render j).toList ++ (later (renderAll js) ++ ']' :: rest)) := resume_token rfl rfl rfl
      _ = resume (.done (.array (v :: before) :: frames) j) (later (renderAll js) ++ ']' :: rest) :=
        resume_render whole.1 _ (ends_later _ (.inl rfl) rest)
      _ = resume (.done frames (.array (before.reverse ++ v :: j :: js))) rest := by
        rw [resume_renderAll whole.2, List.reverse_cons, List.append_assoc]
        rfl

theorem resume_renderMembers : ∀ {ms : List (Str × Json)}, WholeMembers ms → ∀ (before : List (Str × Json)) (k : Str)
    (v : Json) (frames : List Frame) (rest : List Char),
    resume (.done (.object before k :: frames) v) (later (renderMembers ms) ++ '\x7d' :: rest) =
      resume (.done frames (.object (before.reverse ++ (k, v) :: ms))) rest
  | [], _, before, k, v, frames, rest => by
    rw [← List.reverse_cons]
    exact resume_token rfl rfl rfl
  | (name, j) :: ms, whole, before, k, v, frames, rest => by
    have written : later (renderMembers ((name, j) :: ms)) ++ '\x7d' :: rest =
        ',' :: ((quote name).toList ++ ':' :: ((render j).toList ++ (later (renderMembers ms) ++ '\x7d' :: rest))) := by
      simp [renderMembers]
    rw [written]
    calc resume (.done (.object before k :: frames) v) (',' :: ((quote name).toList ++ ':' ::
          ((render j).toList ++ (later (renderMembers ms) ++ '\x7d' :: rest))))
      _ = resume (.key frames ((k, v) :: before)) ((quote name).toList ++ ':' ::
          ((render j).toList ++ (later (renderMembers ms) ++ '\x7d' :: rest))) := resume_token rfl rfl rfl
      _ = resume (.done (.object ((k, v) :: before) name :: frames) j) (later (renderMembers ms) ++ '\x7d' :: rest) :=
        resume_member rfl (resume_render whole.1 _ (ends_later _ (.inr rfl) rest))
      _ = resume (.done frames (.object (before.reverse ++ (k, v) :: (name, j) :: ms))) rest := by
        rw [resume_renderMembers whole.2, List.reverse_cons, List.append_assoc]
        rfl

end

end Reading

theorem read_eq (s : String) : read s = ((Reading.value []).resume s.toList).bind Reading.result? := by
  rw [read, Reading.resume, Option.bind_assoc]
  rfl

theorem read_render {j : Json} (whole : Whole j) : read j.render = some j := by
  have read : Reading.resume (.value []) (j.render.toList ++ []) = Reading.resume (.done [] j) [] :=
    Reading.resume_render whole [] (by rintro _ ⟨⟩)
  rw [List.append_nil] at read
  rw [read_eq, read, Reading.resume_nil, Option.bind_some, Reading.result?]

section Written

theorem wholeAll_iff {js : List Json} : WholeAll js ↔ ∀ j ∈ js, Whole j := by
  induction js with
  | nil => simp [WholeAll]
  | cons j js ih => simp [WholeAll, ih]

theorem wholeMembers_iff {ms : List (Str × Json)} : WholeMembers ms ↔ ∀ m ∈ ms, Whole m.2 := by
  induction ms with
  | nil => simp [WholeMembers]
  | cons m ms ih => simp [WholeMembers, ih]

@[simp] theorem whole_bool (b : Bool) : Whole (bool b) := by simp [Whole]

@[simp] theorem whole_int (i : Int) : Whole (int i) := ⟨rfl, rfl⟩

@[simp] theorem whole_nat (n : Nat) : Whole (nat n) := ⟨rfl, rfl⟩

@[simp] theorem whole_text (s : String) : Whole (text s) := by simp [text, Whole]

@[simp] theorem whole_record {ms : List (String × Json)} : Whole (record ms) ↔ ∀ m ∈ ms, Whole m.2 := by
  rw [record, Whole, wholeMembers_iff, List.forall_mem_map]

@[simp] theorem whole_ofOption {f : α → Json} {o : Option α} : Whole (ofOption f o) ↔ ∀ a ∈ o, Whole (f a) := by
  cases o <;> simp [ofOption, Whole]

@[simp] theorem whole_ofList {f : α → Json} {xs : List α} : Whole (ofList f xs) ↔ ∀ x ∈ xs, Whole (f x) := by
  simp [ofList, Whole, wholeAll_iff]

@[simp] theorem whole_ofWord (a : Int64) : Whole (ofWord a) := whole_int _

@[simp] theorem whole_ofWords (xs : List Int64) : Whole (ofWords xs) := by simp [ofWords]

end Written

end FusionGuards.Json
