import Mathlib.Tactic.SplitIfs
import SandboxTasks.Json.Printer
import SandboxTasks.Json.Reader

namespace SandboxTasks.Json

theorem readChars?_plain {c : Char} (h : 0x20 ≤ c.toNat) (hquote : c ≠ '"') (hslash : c ≠ '\\') (rest : List Char) :
    readChars? (c :: rest) = (readChars? rest).map (prepend c) := by
  rw [readChars?.eq_def]
  split
  case h_5 heq =>
    obtain ⟨rfl, rfl⟩ := List.cons.inj heq
    exact if_neg (Nat.not_lt.mpr h)
  all_goals simp_all

theorem readChars?_escaped {c e : Char} (h : unescape? c = some e) (rest : List Char) :
    readChars? ('\\' :: c :: rest) = (readChars? rest).map (prepend e) := by
  have hu : c ≠ 'u' := by
    rintro rfl
    cases h
  rw [readChars?.eq_def]
  split
  case h_5 hplain heq => exact absurd (List.cons.inj heq).2.symm (hplain _ _ (List.cons.inj heq).1.symm)
  all_goals simp_all

theorem readChars?_code {a b : Char} {m n : Nat} (ha : Text.Hex.value? a = some m) (hb : Text.Hex.value? b = some n)
    (h : m * 16 + n < 0x20) (rest : List Char) :
    readChars? ('\\' :: 'u' :: '0' :: '0' :: a :: b :: rest) =
      (readChars? rest).map (prepend (Char.ofNat (m * 16 + n))) := by
  have hzero : Text.Hex.value? '0' = some 0 := rfl
  have hcode : hex4? '0' '0' a b = some (m * 16 + n) := by simp [hex4?, hzero, ha, hb]
  have hhigh : isHighSurrogate (m * 16 + n) = false := by
    simp [isHighSurrogate]
    omega
  have hlow : isLowSurrogate (m * 16 + n) = false := by
    simp [isLowSurrogate]
    omega
  rw [readChars?.eq_def]
  simp [hcode, hhigh, hlow]

theorem readChars?_escape (c : Char) (rest : List Char) :
    readChars? (escape c ++ rest) = (readChars? rest).map (prepend c) := by
  have hnamed : ∀ n, c.toNat = n → Char.ofNat n = c := fun n h => h ▸ Char.ofNat_toNat c
  unfold escape
  split_ifs with hquote hslash hplain hback htab hline hform hreturn
  · rw [hquote]
    exact readChars?_escaped rfl rest
  · rw [hslash]
    exact readChars?_escaped rfl rest
  · exact readChars?_plain hplain hquote hslash rest
  · rw [← hnamed _ hback]
    exact readChars?_escaped rfl rest
  · rw [← hnamed _ htab]
    exact readChars?_escaped rfl rest
  · rw [← hnamed _ hline]
    exact readChars?_escaped rfl rest
  · rw [← hnamed _ hform]
    exact readChars?_escaped rfl rest
  · rw [← hnamed _ hreturn]
    exact readChars?_escaped rfl rest
  · have hsum : c.toNat / 16 * 16 + c.toNat % 16 = c.toNat := by omega
    have hread := readChars?_code (Text.Hex.value?_digit (n := c.toNat / 16) (by omega))
      (Text.Hex.value?_digit (n := c.toNat % 16) (by omega)) (by omega) rest
    rw [hsum, Char.ofNat_toNat] at hread
    exact hread

theorem readChars?_flatMap_escape (cs rest : List Char) :
    readChars? (cs.flatMap escape ++ '"' :: rest) = some (some cs, rest) := by
  induction cs with
  | nil => rw [List.flatMap_nil, List.nil_append, readChars?]
  | cons c cs ih =>
      rw [List.flatMap_cons, List.append_assoc, readChars?_escape, ih]
      rfl

theorem printString_append (s : String) (rest : List Char) :
    printString s ++ rest = '"' :: (s.toList.flatMap escape ++ '"' :: rest) := by
  simp [printString]

mutual

def isVerbal : Json → Bool
  | .array xs => elementsVerbal xs
  | .object ms => membersVerbal ms
  | .number _ => false
  | .unreadable _ => false
  | _ => true

def elementsVerbal : List Json → Bool
  | [] => true
  | x :: xs => isVerbal x && elementsVerbal xs

def membersVerbal : List (String × Json) → Bool
  | [] => true
  | (_, v) :: ms => isVerbal v && membersVerbal ms

end

theorem skipSpace_cons {c : Char} (h : isSpace c = false) (cs : List Char) : skipSpace (c :: cs) = c :: cs := by
  simp [skipSpace, h]

theorem print_cons {j : Json} (h : j.isVerbal) : ∃ c cs, j.print = c :: cs ∧ isSpace c = false ∧ c ≠ ']' := by
  cases j with
  | null => exact ⟨'n', _, rfl, rfl, by decide⟩
  | bool b => cases b <;> exact ⟨_, _, rfl, rfl, by decide⟩
  | number | unreadable => cases h
  | string s => exact ⟨'"', _, rfl, rfl, by decide⟩
  | array xs => cases xs <;> exact ⟨'[', _, rfl, rfl, by decide⟩
  | object ms => cases ms <;> exact ⟨'{', _, rfl, rfl, by decide⟩

theorem elementsVerbal_cons {x : Json} {xs : List Json} :
    elementsVerbal (x :: xs) ↔ x.isVerbal ∧ elementsVerbal xs := by simp [elementsVerbal]

theorem membersVerbal_cons {k : String} {v : Json} {ms : List (String × Json)} :
    membersVerbal ((k, v) :: ms) ↔ v.isVerbal ∧ membersVerbal ms := by simp [membersVerbal]

section Members

variable {fuel : Nat} {k : String} {v : Json} {cs rest : List Char}

theorem readMembers_last (h : readValue fuel cs = (v, some ('}' :: rest))) :
    readMembers (fuel + 1) (printString k ++ ':' :: cs) = ([(k, v)], some rest) := by
  rw [printString_append, readMembers, skipSpace_cons rfl]
  simp [readChars?_flatMap_escape, skipSpace_cons, isSpace, h]

theorem readMembers_next (h : readValue fuel cs = (v, some (',' :: rest))) :
    readMembers (fuel + 1) (printString k ++ ':' :: cs) =
      ((k, v) :: (readMembers fuel rest).1, (readMembers fuel rest).2) := by
  rw [printString_append, readMembers, skipSpace_cons rfl]
  simp [readChars?_flatMap_escape, skipSpace_cons, isSpace, h]

theorem printMembers_append (ms : List (String × Json)) : printMembers ((k, v) :: ms) ++ rest =
    ',' :: (printString k ++ ':' :: (v.print ++ (printMembers ms ++ rest))) := by
  simp [printMembers]

end Members

-- Every step of the reader takes one of its fuel and at least one character of the text.
mutual

theorem readValue_print : ∀ (j : Json) {fuel : Nat} (rest : List Char), j.isVerbal → j.print.length < fuel →
    readValue fuel (j.print ++ rest) = (j, some rest)
  | _, 0, _, _, hfuel => absurd hfuel (Nat.not_lt_zero _)
  | .null, fuel + 1, rest, _, _ => rfl
  | .bool true, fuel + 1, rest, _, _ => rfl
  | .bool false, fuel + 1, rest, _, _ => rfl
  | .string s, fuel + 1, rest, _, _ => by
      rw [print, printString_append, readValue, skipSpace_cons rfl]
      simp [readChars?_flatMap_escape]
  | .array [], fuel + 1, rest, _, _ => rfl
  | .array (x :: xs), fuel + 1, rest, h, hfuel => by
      have hx : x.isVerbal := (elementsVerbal_cons.mp h).1
      have hread := readElements_print x xs rest h (Nat.lt_of_succ_lt_succ hfuel)
      obtain ⟨c, cs, hprint, hspace, hend⟩ := print_cons hx
      rw [print, List.append_assoc, List.cons_append, readValue, skipSpace_cons rfl]
      rw [hprint, List.cons_append] at hread ⊢
      simp [skipSpace_cons hspace, hend, hread]
  | .object [], fuel + 1, rest, _, _ => rfl
  | .object ((k, v) :: ms), fuel + 1, rest, h, hfuel => by
      have hread := readMembers_print k v ms rest h (Nat.lt_of_succ_lt_succ hfuel)
      rw [print, List.append_assoc, List.cons_append, List.cons_append, List.append_assoc, List.cons_append, readValue,
        skipSpace_cons rfl]
      rw [printString_append] at hread ⊢
      simp [skipSpace_cons (show isSpace '"' = false from rfl), hread]

theorem readElements_print : ∀ (x : Json) (xs : List Json) {fuel : Nat} (rest : List Char), elementsVerbal (x :: xs) →
    (x.print ++ printElements xs).length < fuel →
    readElements fuel (x.print ++ (printElements xs ++ rest)) = (x :: xs, some rest)
  | _, _, 0, _, _, hfuel => absurd hfuel (Nat.not_lt_zero _)
  | x, [], fuel + 1, rest, h, hfuel => by
      have hx := (elementsVerbal_cons.mp h).1
      simp only [printElements, List.length_append, List.length_cons] at hfuel
      rw [readElements, readValue_print x _ hx (by omega), printElements]
      simp [skipSpace_cons (show isSpace ']' = false from rfl)]
  | x, y :: xs, fuel + 1, rest, h, hfuel => by
      obtain ⟨hx, hxs⟩ := elementsVerbal_cons.mp h
      simp only [printElements, List.length_append, List.length_cons] at hfuel
      have hlength : (y.print ++ printElements xs).length < fuel := by
        rw [List.length_append]
        omega
      have hrest := readElements_print y xs rest hxs hlength
      rw [readElements, readValue_print x _ hx (by omega), printElements]
      simp [skipSpace_cons (show isSpace ',' = false from rfl), hrest]

theorem readMembers_print : ∀ (k : String) (v : Json) (ms : List (String × Json)) {fuel : Nat} (rest : List Char),
    membersVerbal ((k, v) :: ms) → (printString k ++ ':' :: v.print ++ printMembers ms).length < fuel →
    readMembers fuel (printString k ++ ':' :: (v.print ++ (printMembers ms ++ rest))) = ((k, v) :: ms, some rest)
  | _, _, _, 0, _, _, hfuel => absurd hfuel (Nat.not_lt_zero _)
  | k, v, [], fuel + 1, rest, h, hfuel => by
      have hv := (membersVerbal_cons.mp h).1
      simp only [printMembers, List.length_append, List.length_cons] at hfuel
      exact readMembers_last (readValue_print v _ hv (by omega))
  | k, v, (l, w) :: ms, fuel + 1, rest, h, hfuel => by
      obtain ⟨hv, hms⟩ := membersVerbal_cons.mp h
      simp only [printMembers, List.length_append, List.length_cons] at hfuel
      have hlength : (printString l ++ ':' :: w.print ++ printMembers ms).length < fuel := by
        simp only [List.length_append, List.length_cons]
        omega
      have hrest := readMembers_print l w ms rest hms hlength
      rw [printMembers_append, readMembers_next (readValue_print v _ hv (by omega)), hrest]

end

theorem readDocument_print {j : Json} (h : j.isVerbal) : readDocument j.print = ⟨j, true⟩ := by
  have hfuel : j.print.length < 2 * j.print.length + 2 := by omega
  have hread := readValue_print j [] h hfuel
  rw [List.append_nil] at hread
  rw [readDocument, hread]
  rfl

end SandboxTasks.Json
