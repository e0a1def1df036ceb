import FrameworkUpgrade.Json.Printer
import FrameworkUpgrade.Proofs.Json.Limits
import FrameworkUpgrade.Proofs.Version.Number

/-!
# `FrameworkUpgrade.Proofs.Json.RoundTrip`: a written value is read back

`read_chars` says that the text of a value is read as the value, when the value keeps to the limits
of the reader and its numbers are integers. The keys of every object come back in their order.

Each reader is told what a writer left for it, in the order in which a value is put together: the
characters of a string, a number, the items of a list, the members of an object. The text that
follows matters to the readers of numbers only, which go on as long as digits, a point or an
exponent do. Inside a container and at the end of a document a comma or a line feed follows.
-/

set_option autoImplicit false

namespace FrameworkUpgrade

namespace Json

/-! ### The first character of a value -/

/-- A digit is none of the other characters that a value starts with. -/
theorem ne_of_isDigit {c d : Char} (hc : c.isDigit = true) (hd : d.isDigit = false) : c ≠ d := by
  rintro rfl
  rw [hc] at hd
  cases hd

section Heads

variable (purpose : Purpose) (room : Nat) (cs : List Char)

/-- A value with a quotation mark is a string. -/
theorem readValue_quote : readValue purpose room ('"' :: cs) =
    (readString purpose cs).map fun (s, rest) => (.text (String.ofList s), rest) := by
  cases room <;> rfl

/-- A value with a minus sign is a number. -/
theorem readValue_minus : readValue purpose room ('-' :: cs) = readNumber purpose true cs := by
  cases room <;> rfl

/-- A value with a digit is a number. -/
theorem readValue_digit {c : Char} (h : c.isDigit = true) :
    readValue purpose room (c :: cs) = readNumber purpose false (c :: cs) := by
  have hne (d : Char) (hd : d.isDigit = false) : c ≠ d := ne_of_isDigit h hd
  rw [readValue.eq_def]
  dsimp only
  rw [if_neg (hne _ rfl), if_neg (hne _ rfl), if_neg (hne _ rfl), if_neg (hne _ rfl),
    if_neg (hne _ rfl), if_pos h]

/-- A value with a bracket is a list, if there is room for another level. -/
theorem readValue_bracket : readValue purpose (room + 1) ('[' :: cs) =
    (readList (readValue purpose room) cs).map fun (vs, rest) => (.list vs, rest) :=
  rfl

/-- A value with a brace is an object, if there is room for another level. -/
theorem readValue_brace : readValue purpose (room + 1) ('{' :: cs) =
    (readObject purpose (fun _ => readValue purpose room) cs).map fun (ms, rest) =>
      (.object (Members.ofWritten ms), rest) :=
  rfl

end Heads

/-! ### Strings -/

/-- The characters that are escaped with a letter. -/
def lettered : List Char := ['"', '\\', '\x08', '\x0C', '\n', '\r', '\t']

/-- The digits of a control give its number back. -/
theorem hexValues?_control {n : Nat} (h : n < 0x20) :
    hexValues? '0' '0' (n / 16).digitChar (n % 16).digitChar = some n := by
  have hall : ∀ n < 0x20,
      hexValues? '0' '0' (n / 16).digitChar (n % 16).digitChar = some n := by decide
  exact hall n h

/-- A text without a mark refuses no character. -/
@[simp] theorem refuses_keep (c : Char) : Purpose.keep.refuses c = false :=
  rfl

/-- A control character is read back from the escape that is written for it. -/
theorem readString_control {c : Char} (h : c.toNat < 0x20) (cs : List Char) :
    readString .keep (controlChars c ++ cs) = consChar c (readString .keep cs) := by
  have htrailing : isTrailing c.toNat = false := by
    simp [isTrailing]
    omega
  have hleading : isLeading c.toNat = false := by
    simp [isLeading]
    omega
  simp [controlChars, readString, hexValues?_control h, htrailing, hleading, Char.ofNat_toNat]

/-- An escaped character is read as the character. -/
theorem readString_escapeChar (c : Char) (cs : List Char) :
    readString .keep (escapeChar c ++ cs) = consChar c (readString .keep cs) := by
  by_cases hlettered : c ∈ lettered
  · simp only [lettered, List.mem_cons, List.not_mem_nil, or_false] at hlettered
    rcases hlettered with rfl | rfl | rfl | rfl | rfl | rfl | rfl <;> rfl
  · simp only [lettered, List.mem_cons, List.not_mem_nil, or_false, not_or] at hlettered
    obtain ⟨hquote, hslash, hb, hf, hn, hr, ht⟩ := hlettered
    rw [escapeChar, if_neg hquote, if_neg hslash, if_neg hb, if_neg hf, if_neg hn, if_neg hr,
      if_neg ht]
    split
    · rename_i hcontrol
      exact readString_control hcontrol cs
    · rename_i hplain
      simp [readString, hslash, if_neg hplain]

/-- A written string is read up to its closing quote. -/
theorem readString_flatMap (s rest : List Char) :
    readString .keep (s.flatMap escapeChar ++ '"' :: rest) = .ok (s, rest) := by
  induction s with
  | nil => rfl
  | cons c s ih =>
    rw [List.flatMap_cons, List.append_assoc, readString_escapeChar, ih]
    rfl

/-- A written string is its escaped characters between two quotation marks. -/
theorem stringChars_append (s : String) (rest : List Char) :
    stringChars s ++ rest = '"' :: (s.toList.flatMap escapeChar ++ '"' :: rest) := by
  simp [stringChars]

/-! ### Numbers -/

/-- A number is an integer of 64 bits, which its digits give back. -/
def Number.Exact : Number → Prop
  | .int n => -2 ^ 63 ≤ n ∧ n < 2 ^ 64
  | .real _ => False

/-- An integer that fits has 64 bits, and so its digits give it back. -/
theorem exact_of_isInt {n : Number} (h : n.Fits) (hint : n.isInt = true) : n.Exact := by
  cases n with
  | int n => exact h
  | real x => cases hint

/-- A comma or a line feed comes next. -/
def Follows (rest : List Char) : Prop :=
  ∃ c cs, rest = c :: cs ∧ (c = ',' ∨ c = '\n')

/-- Digits are read up to the first character that is none. -/
theorem readDigits_append {ds rest : List Char} (hds : ∀ c ∈ ds, c.isDigit = true)
    (hne : ds ≠ []) (hrest : ∀ c ∈ rest.head?, c.isDigit = false) :
    readDigits (ds ++ rest) = .ok (ds, rest) := by
  rw [readDigits, Text.takeWhile_append_of_head hds hrest, Text.dropWhile_append_of_head hds hrest]
  split
  · exact absurd rfl hne
  · exact absurd rfl hne
  · rfl

/-- The digits of a number are read as the integer that they stand for with the sign. -/
theorem readNumber_toDigits {negative : Bool} {n : Nat} {k : Int} {rest : List Char}
    (hvalue : Literal.value? ⟨negative, Nat.toDigits 10 n, none, none⟩ = some (.int k))
    (hrest : Follows rest) :
    readNumber .keep negative (Nat.toDigits 10 n ++ rest) = .ok (.number (.int k), rest) := by
  obtain ⟨c, cs, rfl, hc⟩ := hrest
  have hdigit : ∀ d ∈ (c :: cs).head?, d.isDigit = false := by
    rintro d ⟨⟩
    rcases hc with rfl | rfl <;> rfl
  -- What follows is no digit, no point and no exponent, so every part ends where it should.
  have hdigits : readDigits (Nat.toDigits 10 n ++ c :: cs) = .ok (Nat.toDigits 10 n, c :: cs) :=
    readDigits_append (fun c => Version.isDigit_of_mem_numberChars) (Version.numberChars_ne_nil n)
      hdigit
  have hwhole : readWhole (Nat.toDigits 10 n ++ c :: cs) = .ok (Nat.toDigits 10 n, c :: cs) := by
    unfold readWhole
    rw [hdigits]
    simp only [bind, Except.bind]
    split
    · rename_i h
      exact absurd h (Version.numberChars_ne_zero_cons n _ _)
    · rfl
  have hfraction : readFraction (c :: cs) = .ok (none, c :: cs) := by
    rcases hc with rfl | rfl <;> rfl
  have hexponent : readExponent (c :: cs) = .ok (none, c :: cs) := by
    rcases hc with rfl | rfl <;> rfl
  simp only [readNumber, hwhole, hfraction, hexponent, hvalue, bind, Except.bind]
  rfl

/-- The text of an integer of 64 bits is read as the integer. -/
theorem readValue_intChars {n : Int} (h : (Number.int n).Exact) {rest : List Char}
    (hrest : Follows rest) (room : Nat) :
    readValue .keep room (intChars n ++ rest) = .ok (.number (.int n), rest) := by
  obtain ⟨hlow, hhigh⟩ := h
  have hmagnitude : Nat.ofDigitChars 10 (Nat.toDigits 10 n.natAbs) 0 = n.natAbs :=
    Nat.ofDigitChars_ten_toDigits
  unfold intChars
  split
  · have hvalue : Literal.value? ⟨true, Nat.toDigits 10 n.natAbs, none, none⟩ =
        some (.int n) := by
      refine Literal.value?_eq_int_iff.mpr ⟨rfl, rfl, .inr ⟨rfl, ?_⟩⟩
      rw [Literal.magnitude, hmagnitude]
      omega
    rw [List.cons_append, readValue_minus]
    exact readNumber_toDigits hvalue hrest
  · have hvalue : Literal.value? ⟨false, Nat.toDigits 10 n.natAbs, none, none⟩ =
        some (.int n) := by
      refine Literal.value?_eq_int_iff.mpr ⟨rfl, rfl, .inl ⟨rfl, ?_⟩⟩
      rw [Literal.magnitude, hmagnitude]
      omega
    have hread := readNumber_toDigits hvalue hrest
    -- Without a sign the first character has to be seen: it is a digit.
    cases hdigits : Nat.toDigits 10 n.natAbs with
    | nil => exact absurd hdigits Nat.toDigits_ne_nil
    | cons c cs =>
      have hc : c.isDigit = true :=
        Version.isDigit_of_mem_numberChars (n := n.natAbs) (by
          rw [Version.numberChars, hdigits]
          exact List.mem_cons_self)
      rw [hdigits] at hread
      rw [List.cons_append, readValue_digit _ _ _ hc]
      exact hread

/-! ### Containers -/

/-- A text begins with a character that is neither a blank nor a closing bracket. -/
def Opens (cs : List Char) : Prop :=
  ∃ c rest, cs = c :: rest ∧ isSpace c = false ∧ c ≠ ']'

/-- What opens a value still does with more text behind it. -/
theorem Opens.append {cs : List Char} (h : Opens cs) (rest : List Char) : Opens (cs ++ rest) := by
  obtain ⟨c, cs, rfl, hspace, hbracket⟩ := h
  exact ⟨c, cs ++ rest, rfl, hspace, hbracket⟩

/-- No space comes before what opens a value. -/
theorem dropSpaces_of_opens {cs : List Char} (h : Opens cs) : dropSpaces cs = cs := by
  obtain ⟨c, cs, rfl, hspace, -⟩ := h
  exact Text.dropWhile_of_head (by rintro _ ⟨⟩; exact hspace)

/-- The start of a line is nothing but spaces. -/
theorem dropSpaces_lineStart (depth : Nat) (cs : List Char) :
    dropSpaces (lineStart depth ++ cs) = dropSpaces cs := by
  have hblank : ∀ c ∈ lineStart depth, isSpace c = true := by
    intro c hc
    rcases List.mem_cons.mp hc with rfl | hc
    · rfl
    · rw [List.eq_of_mem_replicate hc]
      rfl
  exact List.dropWhile_append_of_pos hblank

/-- What stands behind an item: a comma and the items after it, or the end of the line. -/
theorem follows_writeItems (depth outer : Nat) (vs : List Json) (rest : List Char) :
    Follows (writeItems depth vs ++ (lineStart outer ++ rest)) := by
  cases vs with
  | nil => exact ⟨_, _, rfl, .inr rfl⟩
  | cons v vs => exact ⟨_, _, rfl, .inl rfl⟩

/-- Behind a member comes a comma or the start of the line with the closing brace. -/
theorem follows_writeMembers (depth outer : Nat) (ms : Members) (rest : List Char) :
    Follows (writeMembers depth ms ++ (lineStart outer ++ rest)) := by
  cases ms with
  | nil => exact ⟨_, _, rfl, .inr rfl⟩
  | cons m ms => exact ⟨_, _, rfl, .inl rfl⟩

section Containers

variable {value : List Char → Result Json} {depth : Nat}

/-- A reader gives a value back from its text, whatever follows. -/
structure ReadsBack (value : List Char → Result Json) (depth : Nat) (v : Json) : Prop where
  opens : Opens (writeValue depth v)
  reads : ∀ rest, Follows rest → value (writeValue depth v ++ rest) = .ok (v, rest)

/-- Written items are read back, up to and with the closing bracket, if the fuel is more than their
number. -/
theorem readItems_writeItems {v : Json} {vs : List Json}
    (h : ∀ w ∈ v :: vs, ReadsBack value depth w) {fuel : Nat} (hfuel : vs.length < fuel)
    (outer : Nat) (rest : List Char) :
    readItems value fuel
      (writeValue depth v ++ (writeItems depth vs ++ (lineStart outer ++ ']' :: rest))) =
      .ok (v :: vs, rest) := by
  induction vs generalizing v fuel with
  | nil =>
    obtain ⟨fuel, rfl⟩ := Nat.exists_eq_add_one_of_ne_zero (Nat.ne_zero_of_lt hfuel)
    have hv := h v List.mem_cons_self
    have hread := hv.reads _ (follows_writeItems depth outer [] (']' :: rest))
    have hclose : dropSpaces (writeItems depth [] ++ (lineStart outer ++ ']' :: rest)) =
        ']' :: rest :=
      dropSpaces_lineStart outer _
    rw [readItems, dropSpaces_of_opens (hv.opens.append _), hread]
    simp only [bind, Except.bind, hclose]
    rfl
  | cons w vs ih =>
    obtain ⟨fuel, rfl⟩ := Nat.exists_eq_add_one_of_ne_zero (Nat.ne_zero_of_lt hfuel)
    have hv := h v List.mem_cons_self
    have hread := hv.reads _ (follows_writeItems depth outer (w :: vs) (']' :: rest))
    have hlater := ih (fun u hu => h u (List.mem_cons_of_mem _ hu)) (Nat.lt_of_succ_lt_succ hfuel)
    -- The comma, and then the next item at the start of its line.
    have hcomma : dropSpaces (writeItems depth (w :: vs) ++ (lineStart outer ++ ']' :: rest)) =
        ',' :: (lineStart depth ++ (writeValue depth w ++
          (writeItems depth vs ++ (lineStart outer ++ ']' :: rest)))) := by
      simp only [writeItems, List.cons_append, List.append_assoc]
      rfl
    have hopens := (h w (List.mem_cons_of_mem _ List.mem_cons_self)).opens.append
      (writeItems depth vs ++ (lineStart outer ++ ']' :: rest))
    obtain ⟨c, cs, hnext, -, hbracket⟩ := id hopens
    have hline : dropSpaces (lineStart depth ++ (writeValue depth w ++
        (writeItems depth vs ++ (lineStart outer ++ ']' :: rest)))) = c :: cs := by
      rw [dropSpaces_lineStart, dropSpaces_of_opens hopens, hnext]
    rw [readItems, dropSpaces_of_opens (hv.opens.append _), hread]
    simp only [bind, Except.bind, hcomma, hline]
    rw [hnext] at hlater
    split
    · rename_i hclose
      exact absurd (List.cons.inj hclose).1 hbracket
    · rw [hlater]
      rfl

/-- A written member is its escaped key between quotation marks, a colon, a space and its value. -/
theorem writeMember_append (depth : Nat) (m : String × Json) (rest : List Char) :
    writeMember depth m ++ rest = '"' :: (m.1.toList.flatMap escapeChar ++
      '"' :: ':' :: ' ' :: (writeValue depth m.2 ++ rest)) := by
  obtain ⟨key, v⟩ := m
  simp [writeMember, stringChars]

/-- A quotation mark is no space. -/
theorem dropSpaces_quote (cs : List Char) : dropSpaces ('"' :: cs) = '"' :: cs :=
  rfl

/-- An escaped key is read back. -/
theorem readKey_flatMap (key : String) (rest : List Char) :
    readKey .keep (key.toList.flatMap escapeChar ++ '"' :: rest) = .ok (key, rest) := by
  rw [readKey, readString_flatMap]
  simp [Except.map]

/-- Behind a key the colon is read and the space dropped, up to the value. -/
theorem readColon_writeValue {v : Json} (h : ReadsBack value depth v) (rest : List Char) :
    readColon (':' :: ' ' :: (writeValue depth v ++ rest)) = .ok (writeValue depth v ++ rest) := by
  have hdrop : dropSpaces (' ' :: (writeValue depth v ++ rest)) = writeValue depth v ++ rest :=
    dropSpaces_of_opens (h.opens.append rest)
  exact congrArg Except.ok hdrop

/-- Members may have the start of a line before them. -/
theorem readMembers_lineStart {α : Type} (purpose : Purpose)
    (value : String → List Char → Result α) (fuel indent : Nat) (cs : List Char) :
    readMembers purpose value fuel (lineStart indent ++ cs) =
      readMembers purpose value fuel cs := by
  cases fuel with
  | zero => rfl
  | succ fuel => rw [readMembers, readMembers, dropSpaces_lineStart]

/-- Written members are read back, up to and with the closing brace, if the fuel is more than their
number. -/
theorem readMembers_writeMembers {m : String × Json} {ms : Members}
    (h : ∀ m' ∈ m :: ms, ReadsBack value depth m'.2) {fuel : Nat} (hfuel : ms.length < fuel)
    (outer : Nat) (rest : List Char) :
    readMembers .keep (fun _ => value) fuel
      (writeMember depth m ++ (writeMembers depth ms ++ (lineStart outer ++ '}' :: rest))) =
      .ok (m :: ms, rest) := by
  induction ms generalizing m fuel with
  | nil =>
    obtain ⟨fuel, rfl⟩ := Nat.exists_eq_add_one_of_ne_zero (Nat.ne_zero_of_lt hfuel)
    have hclose : dropSpaces (writeMembers depth [] ++ (lineStart outer ++ '}' :: rest)) =
        '}' :: rest :=
      dropSpaces_lineStart outer _
    rw [writeMember_append, readMembers, dropSpaces_quote]
    simp only [bind, Except.bind, readKey_flatMap, readColon_writeValue (h m List.mem_cons_self),
      (h m List.mem_cons_self).reads _ (follows_writeMembers depth outer [] _), hclose]
    rfl
  | cons m' ms ih =>
    obtain ⟨fuel, rfl⟩ := Nat.exists_eq_add_one_of_ne_zero (Nat.ne_zero_of_lt hfuel)
    have hm := h m List.mem_cons_self
    have hlater := ih (fun u hu => h u (List.mem_cons_of_mem _ hu)) (Nat.lt_of_succ_lt_succ hfuel)
    -- The comma, and then the next member, whose line the reader skips by itself.
    have hcomma : dropSpaces (writeMembers depth (m' :: ms) ++ (lineStart outer ++ '}' :: rest)) =
        ',' :: (lineStart depth ++ (writeMember depth m' ++
          (writeMembers depth ms ++ (lineStart outer ++ '}' :: rest)))) := by
      simp only [writeMembers, List.cons_append, List.append_assoc]
      rfl
    rw [writeMember_append, readMembers, dropSpaces_quote]
    simp only [bind, Except.bind, readKey_flatMap, readColon_writeValue hm,
      hm.reads _ (follows_writeMembers depth outer (m' :: ms) _), hcomma]
    rw [readMembers_lineStart, hlater]
    rfl

/-- There are no more items than characters, so the reader's fuel suffices. -/
theorem length_le_writeItems (depth : Nat) (vs : List Json) :
    vs.length ≤ (writeItems depth vs).length := by
  induction vs with
  | nil => exact Nat.zero_le _
  | cons v vs ih =>
    rw [writeItems, List.length_append, List.length_append, List.length_cons, List.length_cons]
    omega

/-- Every member takes a character at least, so the length of the text is fuel enough. -/
theorem length_le_writeMembers (depth : Nat) (ms : Members) :
    ms.length ≤ (writeMembers depth ms).length := by
  induction ms with
  | nil => exact Nat.zero_le _
  | cons m ms ih =>
    rw [writeMembers, List.length_append, List.length_append, List.length_cons, List.length_cons]
    omega

/-- A written list that is not empty is read back. -/
theorem readList_writeItems {v : Json} {vs : List Json}
    (h : ∀ w ∈ v :: vs, ReadsBack value depth w) (outer : Nat) (rest : List Char) :
    readList value (lineStart depth ++
      (writeValue depth v ++ (writeItems depth vs ++ (lineStart outer ++ ']' :: rest)))) =
      .ok (v :: vs, rest) := by
  have hopens := (h v List.mem_cons_self).opens.append
    (writeItems depth vs ++ (lineStart outer ++ ']' :: rest))
  have hfuel : vs.length < (writeValue depth v ++ (writeItems depth vs ++
      (lineStart outer ++ ']' :: rest))).length := by
    have hitems := length_le_writeItems depth vs
    simp only [List.length_append, List.length_cons]
    omega
  have hitems := readItems_writeItems h hfuel outer rest
  rw [readList, dropSpaces_lineStart, dropSpaces_of_opens hopens]
  obtain ⟨c, cs, htext, -, hbracket⟩ := hopens
  rw [htext] at hitems ⊢
  -- The first item opens, so the list is not taken for an empty one.
  split
  · rename_i hclose
    exact absurd (List.cons.inj hclose).1 hbracket
  · rename_i hnil
    cases hnil
  · exact hitems

/-- A written object that is not empty is read back. -/
theorem readObject_writeMembers {m : String × Json} {ms : Members}
    (h : ∀ m' ∈ m :: ms, ReadsBack value depth m'.2) (outer : Nat) (rest : List Char) :
    readObject .keep (fun _ => value) (lineStart depth ++
      (writeMember depth m ++ (writeMembers depth ms ++ (lineStart outer ++ '}' :: rest)))) =
      .ok (m :: ms, rest) := by
  have hfuel : ms.length < (writeMember depth m ++ (writeMembers depth ms ++
      (lineStart outer ++ '}' :: rest))).length := by
    have hmembers := length_le_writeMembers depth ms
    simp only [List.length_append, List.length_cons]
    omega
  have hmembers := readMembers_writeMembers h hfuel outer rest
  rw [writeMember_append] at hmembers
  rw [readObject, dropSpaces_lineStart, writeMember_append, dropSpaces_quote]
  exact hmembers

end Containers

/-! ### Values -/

/-- Digits begin a value. -/
theorem opens_of_isDigit {cs : List Char} (hne : cs ≠ []) (h : ∀ c ∈ cs, c.isDigit = true) :
    Opens cs := by
  cases cs with
  | nil => exact absurd rfl hne
  | cons c cs =>
    have hne (d : Char) (hd : d.isDigit = false) : c ≠ d :=
      ne_of_isDigit (h c List.mem_cons_self) hd
    refine ⟨c, cs, rfl, ?_, hne _ rfl⟩
    simp [isSpace, hne]

/-- A written integer opens a value. -/
theorem opens_intChars (n : Int) : Opens (intChars n) := by
  unfold intChars
  split
  · exact ⟨_, _, rfl, rfl, by decide⟩
  · exact opens_of_isDigit (Version.numberChars_ne_nil _)
      fun c => Version.isDigit_of_mem_numberChars

/-- Every written value opens one. -/
theorem opens_writeValue {room : Nat} {j : Json}
    (h : Within Number.Exact room j) (depth : Nat) :
    Opens (writeValue depth j) := by
  cases h with
  | null => exact ⟨_, _, rfl, rfl, by decide⟩
  | bool b => cases b <;> exact ⟨_, _, rfl, rfl, by decide⟩
  | @number _ n h =>
    cases n with
    | int n => exact opens_intChars n
    | real x => exact h.elim
  | text s => exact ⟨_, _, rfl, rfl, by decide⟩
  | @list _ items _ => cases items <;> exact ⟨_, _, rfl, rfl, by decide⟩
  | @object _ ms _ _ => cases ms <;> exact ⟨_, _, rfl, rfl, by decide⟩

/-- The text of a value within the limits is read as the value, with the same room. -/
theorem readValue_writeValue {room : Nat} {j : Json}
    (h : Within Number.Exact room j) (depth : Nat) {rest : List Char}
    (hrest : Follows rest) :
    readValue .keep room (writeValue depth j ++ rest) = .ok (j, rest) := by
  induction h generalizing depth rest with
  | @null room => cases room <;> rfl
  | @bool room b => cases b <;> cases room <;> rfl
  | @number _ n h =>
    cases n with
    | int n => exact readValue_intChars h hrest _
    | real x => exact h.elim
  | text s =>
    rw [writeValue, stringChars_append, readValue_quote, readString_flatMap]
    simp [Except.map]
  -- Containers read their values back with one level less, which is what the induction gives.
  | @list room items values ih =>
    have hback : ∀ w ∈ items, ReadsBack (readValue .keep room) (depth + 1) w := fun w hw =>
      ⟨opens_writeValue (values w hw) (depth + 1), fun rest hrest => ih w hw (depth + 1) hrest⟩
    cases items with
    | nil => rfl
    | cons v vs =>
      have hread := readList_writeItems hback depth rest
      simp only [writeValue, List.cons_append, List.append_assoc, List.nil_append] at hread ⊢
      rw [readValue_bracket, hread]
      rfl
  | @object room ms keys values ih =>
    have hback : ∀ m ∈ ms, ReadsBack (readValue .keep room) (depth + 1) m.2 := fun m hm =>
      ⟨opens_writeValue (values m hm) (depth + 1), fun rest hrest => ih m hm (depth + 1) hrest⟩
    cases ms with
    | nil => rfl
    | cons m ms =>
      have hread := readObject_writeMembers hback depth rest
      simp only [writeValue, List.cons_append, List.append_assoc, List.nil_append] at hread ⊢
      rw [readValue_brace, hread]
      simp [Except.map, Members.ofWritten_of_nodup keys]

/-- The text of a value within the limits, with a line feed behind it, is read as the value. -/
theorem read_chars {j : Json} (h : Within Number.Exact maxDepth j) :
    read (chars j ++ ['\n']) = .ok j := by
  have hend : Follows ['\n'] := ⟨_, _, rfl, .inr rfl⟩
  have hvalue := readValue_writeValue h 0 hend
  rw [read, chars, dropSpaces_of_opens ((opens_writeValue h 0).append _), hvalue]
  rfl

end Json

end FrameworkUpgrade
