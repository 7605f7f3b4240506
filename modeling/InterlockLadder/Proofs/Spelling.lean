import InterlockLadder.Json.Tree
import InterlockLadder.Proofs.Grammar

/-! How documents are written. A document to be written is a value of the grammar
(`Tree.toNode`): its texts have escapes where there have to be some, and its numbers have digits
only. The compact and the pretty form are two texts of this value (`Tree.writtenDocument`). -/

namespace InterlockLadder.Json

/-! ## Characters -/

section
open Scan

theorem hexValue4?_of_lt {n : Nat} (h : n < 0x20) :
    hexValue4? ['0', '0', Nat.digitChar (n / 16), Nat.digitChar (n % 16)] = some n := by
  have hall : ∀ n < 0x20,
      hexValue4? ['0', '0', Nat.digitChar (n / 16), Nat.digitChar (n % 16)] = some n := by
    decide
  exact hall n h

theorem isHighSurrogate_of_lt {n : Nat} (h : n < 0x20) : isHighSurrogate n = false := by
  simp only [isHighSurrogate, Bool.and_eq_false_iff, decide_eq_false_iff_not]
  omega

theorem isLowSurrogate_of_lt {n : Nat} (h : n < 0x20) : isLowSurrogate n = false := by
  simp only [isLowSurrogate, Bool.and_eq_false_iff, decide_eq_false_iff_not]
  omega

end

namespace Glyph

/-- A control character by its number. -/
def numbered (n : Nat) (h : n < 0x20) : Glyph :=
  unit n ['0', '0', Nat.digitChar (n / 16), Nat.digitChar (n % 16)] (hexValue4?_of_lt h)

/-- A control character by its letter, and one that has no letter as it is given. -/
def lettered (c : Char) (otherwise : Glyph) : Glyph :=
  match c with
  | '\x08' => letter 'b' '\x08' rfl
  | '\x0c' => letter 'f' '\x0c' rfl
  | '\n' => letter 'n' '\n' rfl
  | '\r' => letter 'r' '\r' rfl
  | '\t' => letter 't' '\t' rfl
  | _ => otherwise

/-- A character as documents are written. -/
def ofChar (c : Char) : Glyph :=
  if hquote : c = '"' then letter '"' '"' rfl
  else if hbackslash : c = '\\' then letter '\\' '\\' rfl
  else if hcontrol : c.toNat < 0x20 then lettered c (numbered c.toNat hcontrol)
  else plain c ⟨hquote, hbackslash, Nat.not_lt.mp hcontrol⟩

def ofText (s : String) : List Glyph :=
  s.toList.map ofChar

theorem chars_ofChar (c : Char) : (ofChar c).chars = Tree.escapedChar c := by
  unfold Tree.escapedChar
  split
  -- A quote, a backslash, or a control with a letter of its own.
  iterate 7 rfl
  next hquote hbackslash hb hf hn hr ht =>
    rw [ofChar, dif_neg hquote, dif_neg hbackslash]
    split
    · unfold lettered
      split
      iterate 5 contradiction
      rfl
    · rfl

/-- Each character is read back. -/
theorem textOf?_ofChar (c : Char) (glyphs : List Glyph) :
    textOf? (ofChar c :: glyphs) = (textOf? glyphs).map (c :: ·) := by
  unfold ofChar
  split
  · next hquote =>
    subst hquote
    rfl
  · split
    · next hbackslash =>
      subst hbackslash
      rfl
    · split
      · next hcontrol =>
        unfold lettered
        split
        iterate 5 rfl
        have hlow : ¬Scan.isLowSurrogate c.toNat := by simp [isLowSurrogate_of_lt hcontrol]
        have hhigh : ¬Scan.isHighSurrogate c.toNat := by simp [isHighSurrogate_of_lt hcontrol]
        rw [numbered, textOf?_of_single _ _ hlow hhigh, Char.ofNat_toNat]
      · rfl

theorem read?_ofText (s : String) : read? (ofText s) = some s := by
  have hchars : ∀ cs : List Char, textOf? (cs.map ofChar) = some cs := by
    intro cs
    induction cs with
    | nil => rfl
    | cons c cs ih => rw [List.map_cons, textOf?_ofChar, ih, Option.map_some]
  rw [read?, ofText, hchars, Option.map_some, String.ofList_toList]

theorem quote_ofText (s : String) : quote (ofText s) = Tree.quotation s := by
  rw [quote, ofText, List.flatMap_map, Tree.quotation]
  simp only [chars_ofChar]

end Glyph

/-! ## Numbers -/

namespace NumberText

theorem head?_toDigits_ne {n : Nat} (h : 0 < n) : (Nat.toDigits 10 n).head? ≠ some '0' := by
  induction n using Nat.base_induction 10 (by decide) with
  | single m hm =>
    have hdigit : ∀ m < 10, 0 < m → Nat.digitChar m ≠ '0' := by decide
    rw [Nat.toDigits_of_lt_base hm, List.head?_cons]
    exact fun heq => hdigit m hm h (Option.some.inj heq)
  | digit m k hk hm ih =>
    rw [← Nat.toDigits_append_toDigits (by decide) hm hk,
      List.head?_append_of_ne_nil _ Nat.toDigits_ne_nil]
    exact ih hm

/-- A number as documents are written, by its digits. -/
def ofNat (n : Nat) : NumberText where
  negative := false
  whole := ⟨Nat.toDigits 10 n, Nat.toDigits_ne_nil,
    fun _ => Nat.isDigit_of_mem_toDigits (by decide) (by decide)⟩
  whole_eq := by
    intro hhead
    cases n with
    | zero => rfl
    | succ n => exact absurd hhead (head?_toDigits_ne n.succ_pos)
  fraction := none
  exponent := none

theorem chars_ofNat (n : Nat) : (ofNat n).chars = Nat.toDigits 10 n :=
  List.append_nil _

/-- Each record number is read back. -/
theorem value?_ofNat (n : UInt32) : (ofNat n.toNat).value? = some n := by
  have hdigits : Nat.ofDigitChars 10 (ofNat n.toNat).whole.chars 0 = n.toNat :=
    Nat.ofDigitChars_ten_toDigits
  have hparts : ((ofNat n.toNat).negative || (ofNat n.toNat).fraction.isSome ||
      (ofNat n.toNat).exponent.isSome) = false := rfl
  rw [value?, hparts, hdigits, if_neg Bool.false_ne_true, if_pos n.toNat_lt, UInt32.ofNat_toNat]

end NumberText

/-! ## Documents -/

namespace Tree

mutual

/-- The value that a document is written as. -/
def toNode : Tree → Node
  | null => .null
  | number n => .number (.ofNat n)
  | text s => .text (Glyph.ofText s)
  | list items => .list (itemNodes items)
  | object members => .object (memberNodes members)

def itemNodes : List Tree → List Node
  | [] => []
  | item :: items => item.toNode :: itemNodes items

def memberNodes : List (String × Tree) → List (List Glyph × Node)
  | [] => []
  | (name, value) :: members => (Glyph.ofText name, value.toNode) :: memberNodes members

end

/-! ### The compact form

It has no gaps. -/

mutual

theorem compact_eq_render (t : Tree) : t.compact = t.toNode.render [] := by
  cases t with
  | null => rfl
  | number n => exact (NumberText.chars_ofNat n).symm
  | text s => exact (Glyph.quote_ofText s).symm
  | list items =>
    cases items with
    | nil => rfl
    | cons item items =>
      simp [compact, toNode, itemNodes, Node.render, compact_eq_render item,
        compactItems_eq_render items]
  | object members =>
    obtain _ | ⟨⟨name, value⟩, members⟩ := members
    · rfl
    · simp [compact, toNode, memberNodes, Node.render, Glyph.quote_ofText,
        compact_eq_render value, compactMembers_eq_render members]

theorem compactItems_eq_render (items : List Tree) :
    compactItems items = Node.renderItems [] (itemNodes items) := by
  cases items with
  | nil => rfl
  | cons item items =>
    simp [compactItems, itemNodes, Node.renderItems, compact_eq_render item,
      compactItems_eq_render items]

theorem compactMembers_eq_render (members : List (String × Tree)) :
    compactMembers members = Node.renderMembers [] (memberNodes members) := by
  obtain _ | ⟨⟨name, value⟩, members⟩ := members
  · rfl
  · simp [compactMembers, memberNodes, Node.renderMembers, Glyph.quote_ofText,
      compact_eq_render value, compactMembers_eq_render members]

end

/-! ### The pretty form

Its gaps are line breaks with indents, and a space behind each colon. -/

theorem isGap_lineStart (level : Nat) : IsGap (lineStart level) := by
  refine List.forall_mem_cons.mpr ⟨rfl, ?_⟩
  intro c hc
  rw [List.eq_of_mem_replicate hc]
  rfl

/-- A member as the pretty form lays it out. -/
theorem written_member {first : Bool} {lead cs cs' : List Char} {value : Node}
    {members : List (List Glyph × Node)} (name : String) (hlead : Leads first lead)
    (h : Written value cs) (hs : WrittenMembers false members cs') :
    WrittenMembers first ((Glyph.ofText name, value) :: members)
      (lead ++ (quotation name ++ (':' :: ' ' :: (cs ++ cs')))) := by
  rw [← Glyph.quote_ofText]
  exact .member hlead isGap_nil isGap_space h hs

mutual

theorem written_pretty (level : Nat) (t : Tree) : Written t.toNode (t.pretty level) := by
  cases t with
  | null => exact .null
  | number n =>
    rw [pretty, ← NumberText.chars_ofNat]
    exact .number (.ofNat n)
  | text s =>
    rw [pretty, ← Glyph.quote_ofText]
    exact .text (Glyph.ofText s)
  | list items =>
    cases items with
    | nil => exact .list (.close true isGap_nil)
    | cons item items =>
      have hitems := WrittenItems.item (.first (isGap_lineStart (level + 1)))
        (written_pretty (level + 1) item) (writtenItems_pretty level items)
      rw [pretty]
      simpa [toNode, itemNodes] using Written.list hitems
  | object members =>
    obtain _ | ⟨⟨name, value⟩, members⟩ := members
    · exact .object (.close true isGap_nil)
    · have hmembers := written_member name (.first (isGap_lineStart (level + 1)))
        (written_pretty (level + 1) value) (writtenMembers_pretty level members)
      rw [pretty]
      simpa [toNode, memberNodes] using Written.object hmembers

theorem writtenItems_pretty (level : Nat) (items : List Tree) :
    WrittenItems false (itemNodes items) (prettyItems level items) := by
  cases items with
  | nil => exact .close false (isGap_lineStart level)
  | cons item items =>
    have hitems := WrittenItems.item (.next isGap_nil (isGap_lineStart (level + 1)))
      (written_pretty (level + 1) item) (writtenItems_pretty level items)
    rw [prettyItems]
    simpa [itemNodes] using hitems

theorem writtenMembers_pretty (level : Nat) (members : List (String × Tree)) :
    WrittenMembers false (memberNodes members) (prettyMembers level members) := by
  obtain _ | ⟨⟨name, value⟩, members⟩ := members
  · exact .close false (isGap_lineStart level)
  · have hmembers := written_member name (.next isGap_nil (isGap_lineStart (level + 1)))
      (written_pretty (level + 1) value) (writtenMembers_pretty level members)
    rw [prettyMembers]
    simpa [memberNodes] using hmembers

end

/-- Both forms write the document and nothing else. -/
theorem writtenDocument (form : Form) (t : Tree) :
    WrittenDocument t.toNode (t.render form).toList := by
  have hcs : ∀ cs : List Char, Written t.toNode cs → WrittenDocument t.toNode cs := by
    intro cs h
    exact ⟨[], cs, [], isGap_nil, h, isGap_nil, (List.append_nil cs).symm⟩
  cases form with
  | compact =>
    rw [Tree.render, String.toList_ofList, compact_eq_render]
    exact hcs _ (written_render isGap_nil t.toNode)
  | pretty =>
    rw [Tree.render, String.toList_ofList]
    exact hcs _ (written_pretty 0 t)

end Tree

end InterlockLadder.Json
