import InterlockLadder.Proofs.Scanning

/-! All texts of JSON values. A `Node` is a value as it is written: the characters of texts with
their escapes, the parts of numbers, and the members of objects in order, whatever their keys are
and how often they occur. A text that writes a node has any gaps between its tokens (`Written`).

What a node says is read off it without its text: the characters of a text (`Glyph.textOf?`, there
are none if a surrogate lacks its partner) and the record number of a number
(`NumberText.value?`). -/

namespace InterlockLadder.Json

open Scan (hexValue4? isHighSurrogate isLowSurrogate shortEscape?)

/-! ## Texts -/

/-- A character between quotes as it is written: as it is, behind a backslash by a letter, or by the
four digits of its number. -/
inductive Glyph where
  | plain (c : Char) (h : c ≠ '"' ∧ c ≠ '\\' ∧ 0x20 ≤ c.toNat)
  | letter (c escaped : Char) (h : shortEscape? c = some escaped)
  | unit (n : Nat) (digits : List Char) (h : hexValue4? digits = some n)

namespace Glyph

def chars : Glyph → List Char
  | plain c _ => [c]
  | letter c _ _ => ['\\', c]
  | unit _ digits _ => '\\' :: 'u' :: digits

/-- The characters that are written. A number of 16 bits stands for a character, unless it is a
surrogate: a high one and a low one behind it are one character together. -/
def textOf? : List Glyph → Option (List Char)
  | [] => some []
  | plain c _ :: glyphs => (textOf? glyphs).map (c :: ·)
  | letter _ c _ :: glyphs => (textOf? glyphs).map (c :: ·)
  | unit n _ _ :: glyphs =>
    if isLowSurrogate n then none
    else if isHighSurrogate n then
      match glyphs with
      | unit low _ _ :: glyphs =>
        if isLowSurrogate low then
          (textOf? glyphs).map (.ofNat ((n - 0xD800) * 1024 + (low - 0xDC00) + 0x10000) :: ·)
        else none
      | _ => none
    else (textOf? glyphs).map (.ofNat n :: ·)

section
variable {n : Nat} {digits : List Char} (h : hexValue4? digits = some n)

theorem textOf?_of_low (glyphs : List Glyph) (hlow : isLowSurrogate n) :
    textOf? (unit n digits h :: glyphs) = none := by
  rw [textOf?.eq_def]
  exact if_pos hlow

theorem textOf?_of_unpaired (hlow : ¬isLowSurrogate n) (hhigh : isHighSurrogate n)
    {glyphs : List Glyph}
    (hglyphs : ∀ (low : Nat) (digits' : List Char) (h' : hexValue4? digits' = some low)
      (glyphs' : List Glyph), glyphs ≠ unit low digits' h' :: glyphs') :
    textOf? (unit n digits h :: glyphs) = none := by
  rw [textOf?.eq_def]
  simp only [hlow, hhigh, Bool.false_eq_true, if_true, if_false]

theorem textOf?_of_single (glyphs : List Glyph) (hlow : ¬isLowSurrogate n)
    (hhigh : ¬isHighSurrogate n) :
    textOf? (unit n digits h :: glyphs) = (textOf? glyphs).map (.ofNat n :: ·) := by
  rw [textOf?.eq_def]
  simp only [hlow, hhigh, Bool.false_eq_true, if_false]

end

/-- The text between quotes. -/
def quote (glyphs : List Glyph) : List Char :=
  '"' :: glyphs.flatMap chars ++ ['"']

/-- The text that is written. -/
def read? (glyphs : List Glyph) : Option String :=
  (textOf? glyphs).map String.ofList

theorem chars_ne_nil (g : Glyph) : 0 < g.chars.length := by
  cases g <;> exact Nat.zero_lt_succ _

/-- The characters of a text suffice as fuel of one step for each glyph and one for the quote. -/
theorem length_lt (glyphs : List Glyph) (rest : List Char) :
    glyphs.length < (glyphs.flatMap chars ++ '"' :: rest).length := by
  induction glyphs with
  | nil => exact Nat.zero_lt_succ _
  | cons g glyphs ih =>
    have hpos := g.chars_ne_nil
    rw [List.flatMap_cons, List.append_assoc, List.length_append, List.length_cons]
    omega

end Glyph

/-! ## Numbers -/

/-- At least one decimal digit. -/
structure Digits where
  chars : List Char
  ne_nil : chars ≠ []
  isDigit : ∀ d ∈ chars, d.isDigit

/-- The exponent of a number, with its letter and its sign. -/
structure Exponent where
  letter : Char
  letter_eq : letter = 'e' ∨ letter = 'E'
  sign : Option Char
  sign_eq : ∀ c ∈ sign, c = '+' ∨ c = '-'
  digits : Digits

/-- A number by its parts. Only a zero begins with a zero. -/
structure NumberText where
  negative : Bool
  whole : Digits
  whole_eq : whole.chars.head? = some '0' → whole.chars = ['0']
  fraction : Option Digits
  exponent : Option Exponent

namespace NumberText

def fractionChars : Option Digits → List Char
  | none => []
  | some digits => '.' :: digits.chars

def exponentChars : Option Exponent → List Char
  | none => []
  | some e => e.letter :: e.sign.toList ++ e.digits.chars

/-- The number behind its sign. -/
def size (n : NumberText) : List Char :=
  n.whole.chars ++ (fractionChars n.fraction ++ exponentChars n.exponent)

def chars (n : NumberText) : List Char :=
  if n.negative then '-' :: n.size else n.size

/-- The record number that is written: it has digits only, and 32 bits. -/
def value? (n : NumberText) : Option UInt32 :=
  if n.negative || n.fraction.isSome || n.exponent.isSome then none
  else if Nat.ofDigitChars 10 n.whole.chars 0 < UInt32.size then
    some (.ofNat (Nat.ofDigitChars 10 n.whole.chars 0))
  else none

end NumberText

/-! ## Values -/

/-- A value as it is written, up to the gaps. -/
inductive Node where
  | null
  | boolean (b : Bool)
  | number (n : NumberText)
  | text (glyphs : List Glyph)
  | list (items : List Node)
  | object (members : List (List Glyph × Node))

/-- What follows the first letter of a switch. -/
def booleanTail : Bool → List Char
  | true => ['r', 'u', 'e']
  | false => ['a', 'l', 's', 'e']

def booleanHead : Bool → Char
  | true => 't'
  | false => 'f'

/-- What may stand in front of an element: a gap, and behind other elements a comma. -/
inductive Leads : Bool → List Char → Prop
  | first {gap : List Char} (hgap : IsGap gap) : Leads true gap
  | next {gap gap' : List Char} (hgap : IsGap gap) (hgap' : IsGap gap') :
      Leads false (gap ++ ',' :: gap')

mutual

/-- The text writes the value, without a gap in front or behind. -/
inductive Written : Node → List Char → Prop
  | null : Written .null ['n', 'u', 'l', 'l']
  | boolean (b : Bool) : Written (.boolean b) (booleanHead b :: booleanTail b)
  | number (n : NumberText) : Written (.number n) n.chars
  | text (glyphs : List Glyph) : Written (.text glyphs) (Glyph.quote glyphs)
  | list {items : List Node} {cs : List Char} (h : WrittenItems true items cs) :
      Written (.list items) ('[' :: cs)
  | object {members : List (List Glyph × Node)} {cs : List Char}
      (h : WrittenMembers true members cs) : Written (.object members) ('\x7b' :: cs)

/-- The text writes the items up to the closing bracket. The first one has no comma in front. -/
inductive WrittenItems : Bool → List Node → List Char → Prop
  | close (first : Bool) {gap : List Char} (hgap : IsGap gap) :
      WrittenItems first [] (gap ++ [']'])
  | item {first : Bool} {item : Node} {items : List Node} {lead cs cs' : List Char}
      (hlead : Leads first lead) (h : Written item cs) (hs : WrittenItems false items cs') :
      WrittenItems first (item :: items) (lead ++ (cs ++ cs'))

/-- The text writes the members up to the closing bracket. -/
inductive WrittenMembers : Bool → List (List Glyph × Node) → List Char → Prop
  | close (first : Bool) {gap : List Char} (hgap : IsGap gap) :
      WrittenMembers first [] (gap ++ ['\x7d'])
  | member {first : Bool} {key : List Glyph} {value : Node} {members : List (List Glyph × Node)}
      {lead gap gap' cs cs' : List Char} (hlead : Leads first lead) (hgap : IsGap gap)
      (hgap' : IsGap gap') (h : Written value cs) (hs : WrittenMembers false members cs') :
      WrittenMembers first ((key, value) :: members)
        (lead ++ (Glyph.quote key ++ (gap ++ ':' :: (gap' ++ (cs ++ cs')))))

end

/-- The text writes the value and nothing else but gaps. -/
def WrittenDocument (n : Node) (text : List Char) : Prop :=
  ∃ front cs back, IsGap front ∧ Written n cs ∧ IsGap back ∧ text = front ++ cs ++ back

/-! ### Texts with one gap everywhere -/

namespace Node

mutual

/-- A text of the value with the same gap at each place that may have one. -/
def render (gap : List Char) : Node → List Char
  | null => ['n', 'u', 'l', 'l']
  | boolean b => booleanHead b :: booleanTail b
  | number n => n.chars
  | text glyphs => Glyph.quote glyphs
  | list [] => '[' :: (gap ++ [']'])
  | list (item :: items) => '[' :: (gap ++ (render gap item ++ renderItems gap items))
  | object [] => '\x7b' :: (gap ++ ['\x7d'])
  | object ((key, value) :: members) =>
    '\x7b' :: (gap ++ (Glyph.quote key ++
      (gap ++ ':' :: (gap ++ (render gap value ++ renderMembers gap members)))))

/-- The items behind the first one, and the closing bracket. -/
def renderItems (gap : List Char) : List Node → List Char
  | [] => gap ++ [']']
  | item :: items => gap ++ ',' :: gap ++ (render gap item ++ renderItems gap items)

/-- The members behind the first one, and the closing bracket. -/
def renderMembers (gap : List Char) : List (List Glyph × Node) → List Char
  | [] => gap ++ ['\x7d']
  | (key, value) :: members =>
    gap ++ ',' :: gap ++ (Glyph.quote key ++
      (gap ++ ':' :: (gap ++ (render gap value ++ renderMembers gap members))))

end

end Node

theorem isGap_space : IsGap [' '] :=
  List.forall_mem_singleton.mpr rfl

section
variable {gap : List Char} (hgap : IsGap gap)
include hgap

mutual

theorem written_render (n : Node) : Written n (n.render gap) := by
  cases n with
  | null => exact .null
  | boolean b => exact .boolean b
  | number n => exact .number n
  | text glyphs => exact .text glyphs
  | list items =>
    cases items with
    | nil => exact .list (.close true hgap)
    | cons item items =>
      exact .list (.item (.first hgap) (written_render item) (writtenItems_render items))
  | object members =>
    obtain _ | ⟨⟨key, value⟩, members⟩ := members
    · exact .object (.close true hgap)
    · exact .object (.member (.first hgap) hgap hgap (written_render value)
        (writtenMembers_render members))

theorem writtenItems_render (items : List Node) :
    WrittenItems false items (Node.renderItems gap items) := by
  cases items with
  | nil => exact .close false hgap
  | cons item items =>
    exact .item (.next hgap hgap) (written_render item) (writtenItems_render items)

theorem writtenMembers_render (members : List (List Glyph × Node)) :
    WrittenMembers false members (Node.renderMembers gap members) := by
  obtain _ | ⟨⟨key, value⟩, members⟩ := members
  · exact .close false hgap
  · exact .member (.next hgap hgap) hgap hgap (written_render value)
      (writtenMembers_render members)

end

end

/-! ### The first character, and what may follow a value -/

/-- The characters with which a value begins. -/
def Node.Begins : Node → Char → Prop
  | null, c => c = 'n'
  | boolean _, c => c = 't' ∨ c = 'f'
  | number n, c => if n.negative then c = '-' else c.isDigit
  | text _, c => c = '"'
  | list _, c => c = '['
  | object _, c => c = '\x7b'

theorem ne_of_isDigit {c : Char} (h : c.isDigit) (other : Char) (hother : other.isDigit = false) :
    c ≠ other := by
  rintro rfl
  rw [h] at hother
  cases hother

theorem Digits.exists_cons (digits : Digits) :
    ∃ d ds, digits.chars = d :: ds ∧ d.isDigit ∧ ∀ c ∈ ds, c.isDigit := by
  obtain ⟨d, ds, hds⟩ := List.exists_cons_of_ne_nil digits.ne_nil
  have hdigits := digits.isDigit
  rw [hds] at hdigits
  exact ⟨d, ds, hds, hdigits d List.mem_cons_self, fun c hc => hdigits c (.tail _ hc)⟩

theorem Written.exists_cons {n : Node} {cs : List Char} (h : Written n cs) :
    ∃ c cs', cs = c :: cs' ∧ n.Begins c := by
  cases h with
  | number n =>
    obtain ⟨d, ds, hds, hdigit, -⟩ := n.whole.exists_cons
    cases hnegative : n.negative with
    | true =>
      exact ⟨'-', n.size, by simp [NumberText.chars, hnegative], by simp [Node.Begins, hnegative]⟩
    | false =>
      have hsize : n.chars = d :: (ds ++ (NumberText.fractionChars n.fraction ++
          NumberText.exponentChars n.exponent)) := by
        simp [NumberText.chars, NumberText.size, hnegative, hds]
      exact ⟨d, _, hsize, by simpa [Node.Begins, hnegative] using hdigit⟩
  | boolean b =>
    cases b with
    | true => exact ⟨_, _, rfl, .inl rfl⟩
    | false => exact ⟨_, _, rfl, .inr rfl⟩
  | _ => exact ⟨_, _, rfl, rfl⟩

theorem Node.Begins.ne {n : Node} {c other : Char} (h : n.Begins c) (hother : ¬n.Begins other) :
    c ≠ other := by
  rintro rfl
  exact hother h

theorem isGap_of_isDigit {c : Char} (h : c.isDigit) : isGap c = false := by
  have hspace := ne_of_isDigit h ' ' rfl
  have hline := ne_of_isDigit h '\n' rfl
  have htab := ne_of_isDigit h '\t' rfl
  have hreturn := ne_of_isDigit h '\r' rfl
  simp [isGap, hspace, hline, htab, hreturn]

/-- No value begins with a gap, or with a character that stands between values. -/
theorem Node.Begins.isToken {n : Node} {c : Char} (h : n.Begins c) :
    isGap c = false ∧ c ≠ ']' ∧ c ≠ '\x7d' ∧ c ≠ ',' := by
  cases n with
  | number n =>
    simp only [Begins] at h
    split at h
    · subst h
      decide
    · exact ⟨isGap_of_isDigit h, ne_of_isDigit h _ rfl, ne_of_isDigit h _ rfl,
        ne_of_isDigit h _ rfl⟩
  | boolean _ => obtain rfl | rfl := h <;> decide
  | _ =>
    obtain rfl := h
    decide

theorem delimits_nil : Delimits [] := by
  intro c hc
  cases hc

theorem delimits_cons {c : Char} (h : c.isDigit = false ∧ c ≠ '.' ∧ c ≠ 'e' ∧ c ≠ 'E')
    (rest : List Char) : Delimits (c :: rest) := by
  intro other hother
  obtain rfl : c = other := Option.some.inj hother
  exact h

/-- Gaps end a number, and where there is none, what follows does. -/
theorem Delimits.append_gap {gap rest : List Char} (hgap : IsGap gap) (h : Delimits rest) :
    Delimits (gap ++ rest) := by
  cases gap with
  | nil => exact h
  | cons c gap =>
    have hc := hgap c List.mem_cons_self
    simp only [isGap, Bool.or_eq_true, decide_eq_true_eq] at hc
    obtain ((rfl | rfl) | rfl) | rfl := hc <;> exact delimits_cons (by decide) _

theorem Leads.delimits {lead : List Char} (h : Leads false lead) (rest : List Char) :
    Delimits (lead ++ rest) := by
  cases h with
  | next hgap hgap' =>
    rw [List.append_assoc, List.cons_append]
    exact .append_gap hgap (delimits_cons (by decide) _)

/-- What closes a list or goes on with it ends a number as well. -/
theorem WrittenItems.delimits {items : List Node} {cs : List Char}
    (h : WrittenItems false items cs) (rest : List Char) : Delimits (cs ++ rest) := by
  cases h with
  | close _ hgap =>
    rw [List.append_assoc]
    exact .append_gap hgap (delimits_cons (by decide) _)
  | item hlead h hs =>
    rw [List.append_assoc]
    exact hlead.delimits _

theorem WrittenMembers.delimits {members : List (List Glyph × Node)} {cs : List Char}
    (h : WrittenMembers false members cs) (rest : List Char) : Delimits (cs ++ rest) := by
  cases h with
  | close _ hgap =>
    rw [List.append_assoc]
    exact .append_gap hgap (delimits_cons (by decide) _)
  | member hlead hgap hgap' h hs =>
    rw [List.append_assoc]
    exact hlead.delimits _

/-! Every element takes at least one character, and so does the closing bracket. -/

theorem WrittenItems.length_lt {first : Bool} {items : List Node} {cs : List Char}
    (h : WrittenItems first items cs) : items.length < cs.length := by
  induction items generalizing first cs with
  | nil =>
    cases h with
    | close hgap => simp
  | cons item items ih =>
    cases h with
    | item hlead h hs =>
      obtain ⟨c, cs, rfl, -⟩ := h.exists_cons
      have hlt := ih hs
      simp only [List.length_append, List.length_cons]
      omega

theorem WrittenMembers.length_lt {first : Bool} {members : List (List Glyph × Node)}
    {cs : List Char} (h : WrittenMembers first members cs) : members.length < cs.length := by
  induction members generalizing first cs with
  | nil =>
    cases h with
    | close hgap => simp
  | cons member members ih =>
    cases h with
    | member hlead hgap hgap' h hs =>
      have hlt := ih hs
      simp only [List.length_append, List.length_cons]
      omega

/-! ### What may follow the parts of a number -/

theorem Delimits.isDigit_eq_false {rest : List Char} (h : Delimits rest) :
    ∀ c ∈ rest.head?, c.isDigit = false :=
  fun c hc => (h c hc).1

namespace NumberText

/-- What follows a fraction, if there is one, is neither a digit nor a point. -/
theorem head?_exponentChars (exponent : Option Exponent) {rest : List Char} (h : Delimits rest) :
    ∀ c ∈ (exponentChars exponent ++ rest).head?, c.isDigit = false ∧ c ≠ '.' := by
  cases exponent with
  | none => exact fun c hc => ⟨(h c hc).1, (h c hc).2.1⟩
  | some e =>
    rintro c hc
    obtain rfl : e.letter = c := Option.some.inj hc
    obtain hletter | hletter := e.letter_eq <;>
    · rw [hletter]
      decide

theorem head?_fractionChars (fraction : Option Digits) (exponent : Option Exponent)
    {rest : List Char} (h : Delimits rest) :
    ∀ c ∈ (fractionChars fraction ++
      (exponentChars exponent ++ rest)).head?, c.isDigit = false := by
  cases fraction with
  | none => exact fun c hc => (head?_exponentChars exponent h c hc).1
  | some digits =>
    rintro c hc
    obtain rfl : '.' = c := Option.some.inj hc
    rfl

end NumberText

end InterlockLadder.Json
