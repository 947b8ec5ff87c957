import Mathlib.Data.List.Induction
import Mathlib.Data.List.Nodup
import DcasPolicyEngine.Json.Text

/-!
# A rendered value is read back

`parse_render` says that every value whose objects have every key once is what `parse` makes of its
text, in every layout. The lemmas follow the tokens: characters and strings first, then numbers, and
then values, with one statement for each of the parsing functions.
-/

namespace Json

/-! ## Characters -/

theorem hex_value_hex_digit : ∀ n < 16, hexValue (hexDigit n) = some n := by
  decide

/-- An escaped code unit is read back. -/
theorem parse_unit_escape_unit {unit : ℕ} (hunit : unit < 0x10000) (rest : List Char) :
    parseUnit ((escapeUnit unit).drop 2 ++ rest) = some (unit, rest) := by
  have hdigit (n : ℕ) : hexValue (hexDigit (n % 16)) = some (n % 16) :=
    hex_value_hex_digit _ (Nat.mod_lt n (by decide))
  show parseUnit (hexDigit _ :: hexDigit _ :: hexDigit _ :: hexDigit _ :: rest) = _
  simp only [parseUnit, hdigit, Option.bind_eq_bind, Option.bind_some]
  congr 2
  omega

/-- A code unit that is not part of a surrogate pair. -/
theorem parse_escaped_unit_escape_unit {unit : ℕ} (hvalid : unit.isValidChar)
    (hunit : unit < 0x10000) (rest : List Char) :
    parseEscapedUnit ((escapeUnit unit).drop 2 ++ rest) = some (Char.ofNat unit, rest) := by
  have hunpaired : unit < 0xd800 ∨ 0xe000 ≤ unit := by
    rcases hvalid with hlow | hhigh
    · exact .inl hlow
    · exact .inr hhigh.1
  simp only [parseEscapedUnit, parse_unit_escape_unit hunit, Option.bind_eq_bind,
    Option.bind_some]
  rw [if_neg (by omega), if_neg (by omega)]

/-- A surrogate pair. -/
theorem parse_escaped_unit_pair {offset : ℕ} (hoffset : offset < 0x100000) (rest : List Char) :
    parseEscapedUnit ((escapeUnit (0xd800 + offset / 0x400)).drop 2 ++
        (escapeUnit (0xdc00 + offset % 0x400) ++ rest)) =
      some (Char.ofNat (0x10000 + offset), rest) := by
  have hhigh : 0xd800 + offset / 0x400 < 0x10000 := by omega
  have hlow : 0xdc00 + offset % 0x400 < 0x10000 := by omega
  have hsplit : escapeUnit (0xdc00 + offset % 0x400) ++ rest =
      '\\' :: 'u' :: ((escapeUnit (0xdc00 + offset % 0x400)).drop 2 ++ rest) := rfl
  have hcode : 0x10000 + (0xd800 + offset / 0x400 - 0xd800) * 0x400 +
      (0xdc00 + offset % 0x400 - 0xdc00) = 0x10000 + offset := by
    omega
  rw [hsplit]
  simp only [parseEscapedUnit, parse_unit_escape_unit hhigh, Option.bind_eq_bind,
    Option.bind_some]
  rw [if_pos (by omega)]
  simp only [parse_unit_escape_unit hlow, Option.bind_some]
  rw [if_pos (by omega), hcode]

/-- What an escape stands for is the next character of the string. -/
theorem parse_chars_escape {text rest : List Char} {c : Char}
    (hescape : parseEscape text = some (c, rest)) (fuel : ℕ) :
    parseChars (fuel + 1) ('\\' :: text) =
      (parseChars fuel rest).map fun (text, rest) => (c :: text, rest) := by
  have hquote : ¬ '\\' = '"' := by decide
  simp only [parseChars, hescape, if_neg hquote, if_true, Option.bind_eq_bind, Option.bind_some]
  cases parseChars fuel rest <;> rfl

/-- A character of a rendered string is read back. -/
theorem parse_chars_render_char (c : Char) (fuel : ℕ) (rest : List Char) :
    parseChars (fuel + 1) (renderChar c ++ rest) =
      (parseChars fuel rest).map fun (text, rest) => (c :: text, rest) := by
  unfold renderChar
  split_ifs with hquote hbackslash hnewline hreturn htab hfeed hbackspace hprintable hunit
  · rw [hquote]
    exact parse_chars_escape rfl fuel
  · rw [hbackslash]
    exact parse_chars_escape rfl fuel
  · rw [hnewline]
    exact parse_chars_escape rfl fuel
  · rw [hreturn]
    exact parse_chars_escape rfl fuel
  · rw [htab]
    exact parse_chars_escape rfl fuel
  · rw [hfeed]
    exact parse_chars_escape rfl fuel
  · rw [hbackspace]
    exact parse_chars_escape rfl fuel
  · -- a character that stands for itself
    show parseChars (fuel + 1) (c :: rest) = _
    simp only [parseChars, if_neg hquote, if_neg hbackslash, if_neg (Char.not_lt.mpr hprintable.1)]
    cases parseChars fuel rest <;> rfl
  · have hescape : parseEscape ('u' :: ((escapeUnit c.toNat).drop 2 ++ rest)) =
        some (c, rest) := by
      have hread : _ = some (Char.ofNat c.toNat, rest) :=
        parse_escaped_unit_escape_unit c.valid hunit rest
      rw [Char.ofNat_toNat] at hread
      exact hread
    exact parse_chars_escape hescape fuel
  · -- the character takes a surrogate pair
    have hbound : c.toNat < 0x110000 := by
      rcases c.valid with hlow | hhigh
      · exact hlow.trans (by decide)
      · exact hhigh.2
    have hcode : 0x10000 + (c.toNat - 0x10000) = c.toNat := by omega
    have hescape : parseEscape ('u' ::
        ((escapeUnit (0xd800 + (c.toNat - 0x10000) / 0x400)).drop 2 ++
          (escapeUnit (0xdc00 + (c.toNat - 0x10000) % 0x400) ++ rest))) = some (c, rest) := by
      have hpair := parse_escaped_unit_pair (show c.toNat - 0x10000 < 0x100000 by omega) rest
      rw [hcode, Char.ofNat_toNat] at hpair
      exact hpair
    rw [List.append_assoc]
    exact parse_chars_escape hescape fuel

/-- A character takes at least one character of the text. -/
theorem render_char_ne_nil (c : Char) : renderChar c ≠ [] := by
  unfold renderChar
  split_ifs <;> exact List.cons_ne_nil _ _

/-- A string takes at least as many characters of the text as it has, and its closing quote. -/
theorem length_lt_render_chars (text : List Char) : text.length < (renderChars text).length := by
  induction text with
  | nil => exact Nat.one_pos
  | cons c text ih =>
      have hc := List.length_pos_iff.mpr (render_char_ne_nil c)
      rw [renderChars, List.flatMap_cons, List.append_assoc, List.length_append, List.length_cons]
      rw [renderChars] at ih
      omega

/-- A rendered string is read back. -/
theorem parse_chars_render_chars {text : List Char} {fuel : ℕ} (hfuel : text.length < fuel)
    (rest : List Char) : parseChars fuel (renderChars text ++ rest) = some (text, rest) := by
  induction text generalizing fuel with
  | nil =>
      cases fuel with
      | zero => cases hfuel
      | succ fuel => rfl
  | cons c text ih =>
      cases fuel with
      | zero => cases hfuel
      | succ fuel =>
          have hsplit : renderChars (c :: text) ++ rest =
              renderChar c ++ (renderChars text ++ rest) := by
            simp [renderChars]
          rw [hsplit, parse_chars_render_char, ih (Nat.lt_of_succ_lt_succ hfuel)]
          rfl

/-- A string is read with the length of the text as fuel. -/
theorem parse_chars_length (text rest : List Char) :
    parseChars (renderChars text ++ rest).length (renderChars text ++ rest) =
      some (text, rest) := by
  refine parse_chars_render_chars ?_ rest
  have hlength := length_lt_render_chars text
  rw [List.length_append]
  omega

/-! ## Tokens -/

/-- The text starts with a character that is not whitespace. -/
def StartsWith (c : Char) (text : List Char) : Prop :=
  isJsonWhitespace c = false ∧ ∃ rest, text = c :: rest

theorem StartsWith.append {c : Char} {text : List Char} (h : StartsWith c text)
    (rest : List Char) : StartsWith c (text ++ rest) := by
  obtain ⟨hc, tail, rfl⟩ := h
  exact ⟨hc, tail ++ rest, rfl⟩

theorem StartsWith.skip_whitespace {c : Char} {text : List Char} (h : StartsWith c text) :
    skipWhitespace text = text := by
  obtain ⟨hc, tail, rfl⟩ := h
  simp [skipWhitespace, hc]

/-- The token that the text starts with. -/
theorem expect_cons {token : Char} (htoken : isJsonWhitespace token = false) (rest : List Char) :
    expect token (token :: rest) = some rest := by
  simp [expect, skipWhitespace, htoken]

/-- Any other token. -/
theorem StartsWith.expect_eq_none {c token : Char} {text : List Char} (h : StartsWith c text)
    (hne : c ≠ token) : expect token text = none := by
  rw [expect, h.skip_whitespace]
  obtain ⟨_, tail, rfl⟩ := h
  exact if_neg hne

/-- Whitespace in front of a text makes no difference. -/
theorem skip_whitespace_append {space : List Char} (hspace : space.all isJsonWhitespace = true)
    (text : List Char) : skipWhitespace (space ++ text) = skipWhitespace text := by
  unfold skipWhitespace
  rw [List.dropWhile_append_of_pos]
  exact List.all_eq_true.mp hspace

section Space

variable {space : List Char} (hspace : space.all isJsonWhitespace = true) (text : List Char)

include hspace

theorem expect_append (token : Char) : expect token (space ++ text) = expect token text := by
  rw [expect, skip_whitespace_append hspace, expect]

theorem parse_value_append (fuel : ℕ) :
    parseValue fuel (space ++ text) = parseValue fuel text := by
  cases fuel with
  | zero => rfl
  | succ fuel =>
      simp only [parseValue, expect_append hspace, skip_whitespace_append hspace]

theorem parse_member_append (fuel : ℕ) :
    parseMember fuel (space ++ text) = parseMember fuel text := by
  cases fuel with
  | zero => rfl
  | succ fuel => simp only [parseMember, expect_append hspace]

end Space

/-! ## Numbers -/

/-- The text does not go on with a number. -/
def EndsNumber (text : List Char) : Prop := ∀ c ∈ text.head?, isNumberChar c = false

theorem ends_number_cons {c : Char} (hc : isNumberChar c = false) (rest : List Char) :
    EndsNumber (c :: rest) := by
  rintro _ ⟨⟩
  exact hc

/-- A character that no number has. -/
theorem ne_of_number_char {c token : Char} (hc : isNumberChar c = true)
    (htoken : isNumberChar token = false) : c ≠ token := by
  rintro rfl
  rw [hc] at htoken
  cases htoken

/-- A number has no whitespace. -/
theorem not_whitespace_of_number_char {c : Char} (hc : isNumberChar c = true) :
    isJsonWhitespace c = false := by
  have hne (token : Char) (htoken : isNumberChar token = false) : (c == token) = false :=
    beq_false_of_ne (ne_of_number_char hc htoken)
  simp [isJsonWhitespace, hne ' ' (by decide), hne '\t' (by decide), hne '\n' (by decide),
    hne '\r' (by decide)]

/-- A number starts with one of its characters. -/
theorem number_starts (literal : NumberLiteral) :
    ∃ c, isNumberChar c = true ∧ StartsWith c literal.text := by
  obtain ⟨text, hchars, hvalid⟩ := literal
  cases text with
  | nil => cases hvalid
  | cons c rest =>
      have hc : isNumberChar c = true := List.all_eq_true.mp hchars c List.mem_cons_self
      exact ⟨c, hc, not_whitespace_of_number_char hc, rest, rfl⟩

/-- A number is not one of the words. -/
theorem drop_word_eq_none {c token : Char} {text : List Char} (h : StartsWith c text)
    (hne : c ≠ token) (word : List Char) : dropWord (token :: word) text = none := by
  obtain ⟨_, rest, rfl⟩ := h
  refine if_neg fun hword => hne ?_
  exact (List.cons_prefix_cons.mp hword).1.symm

/-- A number is read to its end. -/
theorem parse_literal_number (literal : NumberLiteral) {rest : List Char}
    (hrest : EndsNumber rest) :
    parseLiteral (literal.text ++ rest) = some (.number literal, rest) := by
  obtain ⟨c, hc, hstarts⟩ := number_starts literal
  have happend := hstarts.append rest
  have hchars := List.all_eq_true.mp literal.chars
  have htake : (literal.text ++ rest).takeWhile isNumberChar = literal.text := by
    rw [List.takeWhile_append_of_pos hchars]
    cases rest with
    | nil => simp
    | cons d rest => simp [hrest d rfl]
  have hdrop : (literal.text ++ rest).dropWhile isNumberChar = rest := by
    rw [List.dropWhile_append_of_pos hchars]
    cases rest with
    | nil => rfl
    | cons d rest => simp [hrest d rfl]
  unfold parseLiteral
  rw [drop_word_eq_none happend (ne_of_number_char hc (by decide)),
    drop_word_eq_none happend (ne_of_number_char hc (by decide)),
    drop_word_eq_none happend (ne_of_number_char hc (by decide))]
  simp only [htake, hdrop, literal.chars, literal.valid, and_self, dif_pos]

/-! ## Objects -/

/-- A new key is added at the end. -/
theorem set_of_not_mem {key : List Char} {value : Json} {members : List (List Char × Json)}
    (hkey : key ∉ members.map Prod.fst) : set key value members = members ++ [(key, value)] := by
  induction members with
  | nil => rfl
  | cons member members ih =>
      rw [List.map_cons, List.mem_cons, not_or] at hkey
      rw [set, if_neg (Ne.symm hkey.1), ih hkey.2]
      rfl

/-- Members with different keys are kept as they are. -/
theorem of_members_of_nodup {members : List (List Char × Json)}
    (hkeys : (members.map Prod.fst).Nodup) : ofMembers members = members := by
  induction members using List.reverseRecOn with
  | nil => rfl
  | append_singleton members member ih =>
      rw [List.map_append] at hkeys
      obtain ⟨hearlier, _, hdisjoint⟩ := List.nodup_append.mp hkeys
      have hnew : member.1 ∉ members.map Prod.fst := fun hmem =>
        hdisjoint member.1 hmem member.1 (by simp) rfl
      show List.foldl _ _ (members ++ [member]) = _
      rw [List.foldl_append]
      show set member.1 member.2 (ofMembers members) = _
      rw [ih hearlier, set_of_not_mem hnew]

/-! ## Values -/

mutual

/-- Every object in the value has every key once. -/
def Distinct : Json → Prop
  | .array items => DistinctItems items
  | .object members => (members.map Prod.fst).Nodup ∧ DistinctMembers members
  | .null | .bool _ | .number _ | .string _ => True

/-- `Distinct` for the items of an array. -/
def DistinctItems : List Json → Prop
  | [] => True
  | item :: items => Distinct item ∧ DistinctItems items

/-- `Distinct` for the values of an object. -/
def DistinctMembers : List (List Char × Json) → Prop
  | [] => True
  | (_, value) :: members => Distinct value ∧ DistinctMembers members

end

variable (layout : Layout)

/-- A text starts with its value, and not with a closing bracket or brace. -/
theorem render_starts (value : Json) :
    ∃ c, StartsWith c (render layout value) ∧ c ≠ ']' ∧ c ≠ '\x7d' := by
  cases value with
  | null => exact ⟨'n', ⟨rfl, _, rfl⟩, by decide, by decide⟩
  | bool value =>
      cases value with
      | true => exact ⟨'t', ⟨rfl, _, rfl⟩, by decide, by decide⟩
      | false => exact ⟨'f', ⟨rfl, _, rfl⟩, by decide, by decide⟩
  | number literal =>
      obtain ⟨c, hc, hstarts⟩ := number_starts literal
      exact ⟨c, hstarts, ne_of_number_char hc rfl, ne_of_number_char hc rfl⟩
  | string text => exact ⟨'"', ⟨rfl, _, rfl⟩, by decide, by decide⟩
  | array items => cases items <;> exact ⟨'[', ⟨rfl, _, rfl⟩, by decide, by decide⟩
  | object members => cases members <;> exact ⟨'\x7b', ⟨rfl, _, rfl⟩, by decide, by decide⟩

/-- The rest of an array does not go on with a number. -/
theorem ends_number_items (items : List Json) (rest : List Char) :
    EndsNumber (renderItems layout items ++ rest) := by
  cases items <;> exact ends_number_cons rfl _

/-- The rest of an object does not go on with a number. -/
theorem ends_number_members (members : List (List Char × Json)) (rest : List Char) :
    EndsNumber (renderMembers layout members ++ rest) := by
  cases members <;> exact ends_number_cons rfl _

/-- A word or a number is read by `parseLiteral`. -/
theorem parse_value_literal {c : Char} {text : List Char} (h : StartsWith c text)
    (hquote : c ≠ '"') (hbracket : c ≠ '[') (hbrace : c ≠ '\x7b') (fuel : ℕ) :
    parseValue (fuel + 1) text = parseLiteral text := by
  simp only [parseValue, h.expect_eq_none hquote, h.expect_eq_none hbracket,
    h.expect_eq_none hbrace, h.skip_whitespace]

/-- The words. -/
theorem parse_literal_word (rest : List Char) :
    parseLiteral ('n' :: 'u' :: 'l' :: 'l' :: rest) = some (.null, rest) ∧
      parseLiteral ('t' :: 'r' :: 'u' :: 'e' :: rest) = some (.bool true, rest) ∧
      parseLiteral ('f' :: 'a' :: 'l' :: 's' :: 'e' :: rest) = some (.bool false, rest) := by
  simp [parseLiteral, dropWord]

/-- A member with the rest of its object, in front of another text. -/
def memberText (key : List Char) (value : Json) (members : List (List Char × Json))
    (rest : List Char) : List Char :=
  '"' :: (renderChars key ++ ':' :: (layout.afterColon ++
    (render layout value ++ (renderMembers layout members ++ rest))))

/-- A member is read back when its value is. -/
theorem parse_member_render (key : List Char) {value : Json} {fuel : ℕ}
    {members : List (List Char × Json)} {rest : List Char}
    (hvalue : parseValue fuel (render layout value ++ (renderMembers layout members ++ rest)) =
      some (value, renderMembers layout members ++ rest)) :
    parseMember (fuel + 1) (memberText layout key value members rest) =
      some ((key, value), renderMembers layout members ++ rest) := by
  simp only [parseMember, memberText, expect_cons (show isJsonWhitespace '"' = false from rfl),
    Option.bind_eq_bind, Option.bind_some, parse_chars_length,
    expect_cons (show isJsonWhitespace ':' = false from rfl),
    parse_value_append layout.colon_whitespace, hvalue]

mutual

/-- A value is read back. -/
theorem parse_value_render : ∀ (value : Json), Distinct value → ∀ (fuel : ℕ)
    (rest : List Char), 2 * (render layout value).length ≤ fuel → EndsNumber rest →
      parseValue fuel (render layout value ++ rest) = some (value, rest)
  | value, hdistinct, 0, rest, hfuel, _ => by
      obtain ⟨c, ⟨_, text, htext⟩, _⟩ := render_starts layout value
      rw [htext, List.length_cons] at hfuel
      omega
  | .null, _, fuel + 1, rest, _, _ => by
      have hstarts : StartsWith 'n' (render layout .null ++ rest) := ⟨rfl, _, rfl⟩
      rw [parse_value_literal hstarts (by decide) (by decide) (by decide)]
      exact (parse_literal_word rest).1
  | .bool true, _, fuel + 1, rest, _, _ => by
      have hstarts : StartsWith 't' (render layout (.bool true) ++ rest) := ⟨rfl, _, rfl⟩
      rw [parse_value_literal hstarts (by decide) (by decide) (by decide)]
      exact (parse_literal_word rest).2.1
  | .bool false, _, fuel + 1, rest, _, _ => by
      have hstarts : StartsWith 'f' (render layout (.bool false) ++ rest) := ⟨rfl, _, rfl⟩
      rw [parse_value_literal hstarts (by decide) (by decide) (by decide)]
      exact (parse_literal_word rest).2.2
  | .number literal, _, fuel + 1, rest, _, hrest => by
      obtain ⟨c, hc, hstarts⟩ := number_starts literal
      show parseValue (fuel + 1) (literal.text ++ rest) = _
      rw [parse_value_literal (hstarts.append rest) (ne_of_number_char hc rfl)
        (ne_of_number_char hc rfl) (ne_of_number_char hc rfl)]
      exact parse_literal_number literal hrest
  | .string text, _, fuel + 1, rest, _, _ => by
      show parseValue (fuel + 1) ('"' :: (renderChars text ++ rest)) = _
      simp only [parseValue, expect_cons (show isJsonWhitespace '"' = false from rfl),
        parse_chars_length, Option.bind_eq_bind, Option.bind_some]
  | .array [], _, fuel + 1, rest, hfuel, _ => by
      obtain ⟨fuel, rfl⟩ : ∃ less, fuel = less + 1 :=
        ⟨fuel - 1, by simp [render] at hfuel; omega⟩
      have hstarts : StartsWith '[' ('[' :: ']' :: rest) := ⟨rfl, _, rfl⟩
      show parseValue (fuel + 2) ('[' :: ']' :: rest) = _
      simp only [parseValue, hstarts.expect_eq_none (show '[' ≠ '"' by decide),
        expect_cons (show isJsonWhitespace '[' = false from rfl), parseArray,
        expect_cons (show isJsonWhitespace ']' = false from rfl), Option.bind_eq_bind,
        Option.bind_some]
  | .array (item :: items), hdistinct, fuel + 1, rest, hfuel, _ => by
      have hlength : 2 * ((render layout item).length + (renderItems layout items).length) + 1 ≤
          fuel := by
        simp only [render, List.length_cons, List.length_append] at hfuel
        omega
      obtain ⟨fuel, rfl⟩ : ∃ less, fuel = less + 1 := ⟨fuel - 1, by omega⟩
      obtain ⟨c, hstarts, hclose, _⟩ := render_starts layout item
      have hitem := parse_value_render item hdistinct.1 fuel (renderItems layout items ++ rest)
        (by omega) (ends_number_items layout items rest)
      have hitems := parse_items_render items hdistinct.2 fuel rest (by omega)
      have hopen : StartsWith '[' ('[' :: (render layout item ++
        (renderItems layout items ++ rest))) := ⟨rfl, _, rfl⟩
      have htext : render layout (.array (item :: items)) ++ rest =
          '[' :: (render layout item ++ (renderItems layout items ++ rest)) := by
        simp [render]
      rw [htext]
      simp only [parseValue, hopen.expect_eq_none (show '[' ≠ '"' by decide),
        expect_cons (show isJsonWhitespace '[' = false from rfl), parseArray,
        (hstarts.append _).expect_eq_none hclose, hitem, hitems, Option.bind_eq_bind,
        Option.bind_some]
  | .object [], _, fuel + 1, rest, hfuel, _ => by
      obtain ⟨fuel, rfl⟩ : ∃ less, fuel = less + 1 :=
        ⟨fuel - 1, by simp [render] at hfuel; omega⟩
      have hstarts : StartsWith '\x7b' ('\x7b' :: '\x7d' :: rest) := ⟨rfl, _, rfl⟩
      show parseValue (fuel + 2) ('\x7b' :: '\x7d' :: rest) = _
      simp only [parseValue, hstarts.expect_eq_none (show '\x7b' ≠ '"' by decide),
        hstarts.expect_eq_none (show '\x7b' ≠ '[' by decide),
        expect_cons (show isJsonWhitespace '\x7b' = false from rfl), parseObject,
        expect_cons (show isJsonWhitespace '\x7d' = false from rfl), Option.bind_eq_bind,
        Option.bind_some]
      rfl
  | .object ((key, value) :: members), hdistinct, fuel + 1, rest, hfuel, _ => by
      have hlength : 2 * ((render layout value).length + (renderMembers layout members).length) +
          3 ≤ fuel := by
        simp only [render, renderString, List.length_cons, List.length_append] at hfuel
        omega
      obtain ⟨fuel, rfl⟩ : ∃ less, fuel = less + 2 := ⟨fuel - 2, by omega⟩
      have hvalue := parse_value_render value hdistinct.2.1 fuel
        (renderMembers layout members ++ rest) (by omega) (ends_number_members layout members rest)
      have hmember := parse_member_render layout key hvalue
      have hmembers := parse_members_render members hdistinct.2.2 (fuel + 1) rest (by omega)
      have hopen : StartsWith '\x7b' ('\x7b' :: memberText layout key value members rest) :=
        ⟨rfl, _, rfl⟩
      have hstarts : StartsWith '"' (memberText layout key value members rest) := ⟨rfl, _, rfl⟩
      have htext : render layout (.object ((key, value) :: members)) ++ rest =
          '\x7b' :: memberText layout key value members rest := by
        simp [render, renderString, memberText]
      rw [htext]
      simp only [parseValue, hopen.expect_eq_none (show '\x7b' ≠ '"' by decide),
        hopen.expect_eq_none (show '\x7b' ≠ '[' by decide),
        expect_cons (show isJsonWhitespace '\x7b' = false from rfl), parseObject,
        hstarts.expect_eq_none (show '"' ≠ '\x7d' by decide), hmember, hmembers,
        Option.bind_eq_bind, Option.bind_some, of_members_of_nodup hdistinct.1]

/-- The rest of an array is read back. -/
theorem parse_items_render : ∀ (items : List Json), DistinctItems items → ∀ (fuel : ℕ)
    (rest : List Char), 2 * (renderItems layout items).length ≤ fuel →
      parseItems fuel (renderItems layout items ++ rest) = some (items, rest)
  | [], _, fuel, rest, hfuel => by
      obtain ⟨fuel, rfl⟩ : ∃ less, fuel = less + 1 :=
        ⟨fuel - 1, by simp [renderItems] at hfuel; omega⟩
      show parseItems (fuel + 1) (']' :: rest) = _
      simp only [parseItems, expect_cons (show isJsonWhitespace ']' = false from rfl)]
  | item :: items, hdistinct, fuel, rest, hfuel => by
      have hlength : 2 * ((render layout item).length + (renderItems layout items).length) + 1 ≤
          fuel := by
        simp only [renderItems, List.length_cons, List.length_append] at hfuel
        omega
      obtain ⟨fuel, rfl⟩ : ∃ less, fuel = less + 1 := ⟨fuel - 1, by omega⟩
      have hitem := parse_value_render item hdistinct.1 fuel (renderItems layout items ++ rest)
        (by omega) (ends_number_items layout items rest)
      have hitems := parse_items_render items hdistinct.2 fuel rest (by omega)
      have hcomma : StartsWith ',' (',' :: (layout.afterComma ++ (render layout item ++
        (renderItems layout items ++ rest)))) := ⟨rfl, _, rfl⟩
      have htext : renderItems layout (item :: items) ++ rest =
          ',' :: (layout.afterComma ++ (render layout item ++
            (renderItems layout items ++ rest))) := by
        simp [renderItems]
      rw [htext]
      simp only [parseItems, hcomma.expect_eq_none (show ',' ≠ ']' by decide),
        expect_cons (show isJsonWhitespace ',' = false from rfl),
        parse_value_append layout.comma_whitespace, hitem, hitems, Option.bind_eq_bind,
        Option.bind_some]

/-- The rest of an object is read back. -/
theorem parse_members_render : ∀ (members : List (List Char × Json)), DistinctMembers members →
    ∀ (fuel : ℕ) (rest : List Char), 2 * (renderMembers layout members).length ≤ fuel →
      parseMembers fuel (renderMembers layout members ++ rest) = some (members, rest)
  | [], _, fuel, rest, hfuel => by
      obtain ⟨fuel, rfl⟩ : ∃ less, fuel = less + 1 :=
        ⟨fuel - 1, by simp [renderMembers] at hfuel; omega⟩
      show parseMembers (fuel + 1) ('\x7d' :: rest) = _
      simp only [parseMembers, expect_cons (show isJsonWhitespace '\x7d' = false from rfl)]
  | (key, value) :: members, hdistinct, fuel, rest, hfuel => by
      have hlength : 2 * ((render layout value).length + (renderMembers layout members).length) +
          3 ≤ fuel := by
        simp only [renderMembers, renderString, List.length_cons, List.length_append] at hfuel
        omega
      obtain ⟨fuel, rfl⟩ : ∃ less, fuel = less + 2 := ⟨fuel - 2, by omega⟩
      have hvalue := parse_value_render value hdistinct.1 fuel
        (renderMembers layout members ++ rest) (by omega) (ends_number_members layout members rest)
      have hmember := parse_member_render layout key hvalue
      have hmembers := parse_members_render members hdistinct.2 (fuel + 1) rest (by omega)
      have hcomma : StartsWith ',' (',' :: (layout.afterComma ++
        memberText layout key value members rest)) := ⟨rfl, _, rfl⟩
      have htext : renderMembers layout ((key, value) :: members) ++ rest =
          ',' :: (layout.afterComma ++ memberText layout key value members rest) := by
        simp [renderMembers, renderString, memberText]
      rw [htext, parseMembers]
      simp only [hcomma.expect_eq_none (show ',' ≠ '\x7d' by decide),
        expect_cons (show isJsonWhitespace ',' = false from rfl),
        parse_member_append layout.comma_whitespace, hmember, hmembers, Option.bind_eq_bind,
        Option.bind_some]

end

/-- A text is read as the value that it is the text of. -/
theorem parse_render {value : Json} (hdistinct : Distinct value) :
    parse (render layout value) = some value := by
  have hread := parse_value_render layout value hdistinct (2 * (render layout value).length) []
    le_rfl (fun _ hmem => by cases hmem)
  rw [List.append_nil] at hread
  rw [parse, hread]
  rfl

end Json
