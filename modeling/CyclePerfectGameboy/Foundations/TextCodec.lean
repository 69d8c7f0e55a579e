import Mathlib.Data.List.Basic
import Mathlib.Data.List.TakeWhile
import Mathlib.Data.Nat.Digits.Defs

/-!
# Text formats and their parsers

A codec parses what it writes in front of any rest, and what it accepts is
what it writes.  Formats are put together from literals, numbers of a fixed
width and numbers that end at a delimiter.
-/

namespace CyclePerfectGameboy

universe u v

structure TextCodec (Value : Type u) where
  write : Value → List Char
  parse : List Char → Option (Value × List Char)
  parse_write :
    ∀ value rest, parse (write value ++ rest) = some (value, rest)
  write_parse :
    ∀ {text value rest}, parse text = some (value, rest) →
      text = write value ++ rest

namespace TextCodec

variable {Value : Type u} {Other : Type v}

/-- A text that is read to its end. -/
def parseAll (codec : TextCodec Value) (text : List Char) : Option Value :=
  match codec.parse text with
  | some (value, []) => some value
  | _ => none

/-- The texts that are accepted are exactly those that are written. -/
theorem parseAll_eq_some_iff
    (codec : TextCodec Value) {text : List Char} {value : Value} :
    codec.parseAll text = some value ↔ text = codec.write value := by
  constructor
  · intro parsed
    unfold parseAll at parsed
    split at parsed
    · rename_i found accepted
      cases parsed
      rw [codec.write_parse accepted, List.append_nil]
    · exact absurd parsed (Option.some_ne_none value).symm
  · rintro rfl
    have parsed := codec.parse_write value []
    rw [List.append_nil] at parsed
    rw [parseAll, parsed]

/-- A fixed text. -/
def literal (label : List Char) : TextCodec Unit where
  write _ := label
  parse text :=
    if text.take label.length = label then
      some ((), text.drop label.length)
    else
      none
  parse_write := by
    intro value rest
    simp
  write_parse := by
    intro text value rest parsed
    split at parsed
    · rename_i starts
      cases parsed
      calc text
          = text.take label.length ++ text.drop label.length :=
            (List.take_append_drop _ _).symm
        _ = label ++ text.drop label.length := by rw [starts]
    · cases parsed

def pair (first : TextCodec Value) (second : TextCodec Other) :
    TextCodec (Value × Other) where
  write values := first.write values.1 ++ second.write values.2
  parse text :=
    (first.parse text).bind (fun left =>
      (second.parse left.2).map (fun right =>
        ((left.1, right.1), right.2)))
  parse_write := by
    intro values rest
    simp [List.append_assoc, first.parse_write, second.parse_write]
  write_parse := by
    intro text values rest parsed
    obtain ⟨left, leftParsed, parsed⟩ := Option.bind_eq_some_iff.mp parsed
    obtain ⟨right, rightParsed, same⟩ := Option.map_eq_some_iff.mp parsed
    cases same
    rw [first.write_parse leftParsed, second.write_parse rightParsed,
      List.append_assoc]

/-- The same text for values of another type. -/
def relabel (codec : TextCodec Value) (there : Value → Other)
    (back : Other → Value)
    (backThere : ∀ value, back (there value) = value)
    (thereBack : ∀ value, there (back value) = value) :
    TextCodec Other where
  write value := codec.write (back value)
  parse text :=
    (codec.parse text).map (fun result => (there result.1, result.2))
  parse_write := by
    intro value rest
    simp [codec.parse_write, thereBack]
  write_parse := by
    intro text value rest parsed
    obtain ⟨result, accepted, same⟩ := Option.map_eq_some_iff.mp parsed
    cases same
    rw [backThere, codec.write_parse accepted]

/-- A label in front of a value. -/
def labelled (label : String) (codec : TextCodec Value) : TextCodec Value :=
  ((literal label.toList).pair codec).relabel Prod.snd (fun value => ((), value))
    (fun _ => rfl) (fun _ => rfl)

/-- A value with a text behind it that the value decides. -/
def echoed (codec : TextCodec Value) (echo : Value → List Char) :
    TextCodec Value where
  write value := codec.write value ++ echo value
  parse text :=
    (codec.parse text).bind (fun result =>
      ((literal (echo result.1)).parse result.2).map (fun behind =>
        (result.1, behind.2)))
  parse_write := by
    intro value rest
    simp [List.append_assoc, codec.parse_write, literal]
  write_parse := by
    intro text value rest parsed
    obtain ⟨result, accepted, parsed⟩ := Option.bind_eq_some_iff.mp parsed
    obtain ⟨behind, echoParsed, same⟩ := Option.map_eq_some_iff.mp parsed
    cases same
    rw [codec.write_parse accepted,
      (literal (echo result.1)).write_parse echoParsed, List.append_assoc]
    rfl

section Write

@[simp]
theorem echoed_write
    (codec : TextCodec Value) (echo : Value → List Char) (value : Value) :
    (codec.echoed echo).write value = codec.write value ++ echo value := rfl

@[simp]
theorem pair_write
    (first : TextCodec Value) (second : TextCodec Other)
    (values : Value × Other) :
    (first.pair second).write values =
      first.write values.1 ++ second.write values.2 := rfl

@[simp]
theorem relabel_write
    (codec : TextCodec Value) (there : Value → Other) (back : Other → Value)
    (backThere : ∀ value, back (there value) = value)
    (thereBack : ∀ value, there (back value) = value) (value : Other) :
    (codec.relabel there back backThere thereBack).write value =
      codec.write (back value) := rfl

@[simp]
theorem labelled_write
    (label : String) (codec : TextCodec Value) (value : Value) :
    (labelled label codec).write value = label.toList ++ codec.write value :=
  rfl

end Write

/-- A value whose text has a fixed width.  A text that is not the one that
would be written is refused. -/
def fixedWidth (width : Nat) (digits : Value → List Char)
    (valueOf : List Char → Value)
    (length : ∀ value, (digits value).length = width)
    (inverse : ∀ value, valueOf (digits value) = value) :
    TextCodec Value where
  write := digits
  parse text :=
    if digits (valueOf (text.take width)) = text.take width then
      some (valueOf (text.take width), text.drop width)
    else
      none
  parse_write := by
    intro value rest
    have front : (digits value ++ rest).take width = digits value := by
      rw [← length value, List.take_left]
    have behind : (digits value ++ rest).drop width = rest := by
      rw [← length value, List.drop_left]
    simp [front, behind, inverse]
  write_parse := by
    intro text value rest parsed
    split at parsed
    · rename_i canonical
      cases parsed
      rw [canonical, List.take_append_drop]
    · cases parsed

/-- A value whose text ends before the delimiter. -/
def delimited (delimiter : Char) (digits : Value → List Char)
    (valueOf : List Char → Value)
    (apart : ∀ value, delimiter ∉ digits value)
    (inverse : ∀ value, valueOf (digits value) = value) :
    TextCodec Value where
  write value := digits value ++ [delimiter]
  parse text :=
    let front := text.takeWhile (fun char => char != delimiter)
    let behind := text.dropWhile (fun char => char != delimiter)
    if digits (valueOf front) = front ∧ behind.head? = some delimiter then
      some (valueOf front, behind.tail)
    else
      none
  parse_write := by
    intro value rest
    have others :
        ∀ char ∈ digits value, (char != delimiter) = true := by
      intro char member
      have different : char ≠ delimiter := by
        rintro rfl
        exact apart value member
      simpa using different
    have front :
        (digits value ++ [delimiter] ++ rest).takeWhile
            (fun char => char != delimiter) =
          digits value := by
      rw [List.append_assoc, List.takeWhile_append_of_pos others]
      simp
    have behind :
        (digits value ++ [delimiter] ++ rest).dropWhile
            (fun char => char != delimiter) =
          delimiter :: rest := by
      rw [List.append_assoc, List.dropWhile_append_of_pos others]
      simp
    simp only [front, behind, inverse, List.head?_cons, and_self, if_true,
      List.tail_cons]
  write_parse := by
    intro text value rest parsed
    simp only at parsed
    split at parsed
    · rename_i canonical
      cases parsed
      rcases canonical with ⟨same, headed⟩
      rw [same, List.append_assoc, List.singleton_append,
        List.cons_head?_tail headed, List.takeWhile_append_dropWhile]
    · cases parsed

/-! ## Numbers -/

/-- A number in decimal digits, up to a delimiter. -/
def decimal (delimiter : Char) (notDigit : delimiter.isDigit = false) :
    TextCodec Nat :=
  delimited delimiter (Nat.toDigits 10)
    (fun text => Nat.ofDigitChars 10 text 0)
    (fun value member => by
      have digit : delimiter.isDigit = true :=
        Nat.isDigit_of_mem_toDigits (by decide) (by decide) member
      rw [notDigit] at digit
      exact Bool.false_ne_true digit)
    (fun _ => Nat.ofDigitChars_ten_toDigits)

@[simp]
theorem decimal_write
    (delimiter : Char) (notDigit : delimiter.isDigit = false) (value : Nat) :
    (decimal delimiter notDigit).write value =
      Nat.toDigits 10 value ++ [delimiter] := rfl

def hexDigitValue (digit : Char) : Nat :=
  if digit.isDigit then digit.toNat - 48 else digit.toNat - 87

def hexNumber (text : List Char) : Nat :=
  text.foldl (fun value digit => 16 * value + hexDigitValue digit) 0

theorem hexDigitValue_digitChar :
    ∀ digit < 16, hexDigitValue (Nat.digitChar digit) = digit := by
  decide

theorem hexNumber_toDigits (value : Nat) :
    hexNumber (Nat.toDigits 16 value) = value := by
  induction value using Nat.strongRecOn with
  | ind value inductionHypothesis =>
      have sixteen : 1 < 16 := by decide
      by_cases small : value < 16
      · rw [Nat.toDigits_of_lt_base small]
        simpa [hexNumber] using hexDigitValue_digitChar value small
      · have smaller : value / 16 < value := by omega
        rw [Nat.toDigits_of_base_le sixteen (Nat.le_of_not_lt small),
          hexNumber, List.foldl_append, List.foldl_cons, List.foldl_nil,
          ← hexNumber, inductionHypothesis _ smaller,
          hexDigitValue_digitChar _ (Nat.mod_lt _ (by decide))]
        omega

/-- Hexadecimal digits with leading zeros. -/
def paddedHex (width value : Nat) : List Char :=
  List.replicate (width - (Nat.toDigits 16 value).length) '0' ++
    Nat.toDigits 16 value

theorem hexNumber_paddedHex (width value : Nat) :
    hexNumber (paddedHex width value) = value := by
  have zeros :
      ∀ count,
        (List.replicate count '0').foldl
            (fun value digit => 16 * value + hexDigitValue digit) 0 =
          0 := by
    intro count
    induction count with
    | zero =>
        rfl
    | succ count inductionHypothesis =>
        rw [List.replicate_succ, List.foldl_cons]
        exact inductionHypothesis
  rw [hexNumber, paddedHex, List.foldl_append, zeros]
  exact hexNumber_toDigits value

theorem paddedHex_length
    {width value : Nat} (positive : 0 < width) (fits : value < 16 ^ width) :
    (paddedHex width value).length = width := by
  have short : (Nat.toDigits 16 value).length ≤ width :=
    Nat.toDigits_length 16 value width positive fits
  rw [paddedHex, List.length_append, List.length_replicate]
  omega

theorem paddedHex_length_word
    {width : Nat} (positive : 0 < width) (value : BitVec (4 * width)) :
    (paddedHex width value.toNat).length = width := by
  refine paddedHex_length positive ?_
  have inside := value.isLt
  rwa [Nat.pow_mul] at inside

/-- A machine word in as many hexadecimal digits as it has nibbles. -/
def hexadecimal (width : Nat) (positive : 0 < width) :
    TextCodec (BitVec (4 * width)) :=
  fixedWidth width (fun value => paddedHex width value.toNat)
    (fun text => BitVec.ofNat (4 * width) (hexNumber text))
    (paddedHex_length_word positive)
    (fun value => by rw [hexNumber_paddedHex, BitVec.ofNat_toNat,
      BitVec.setWidth_eq])

@[simp]
theorem hexadecimal_write
    (width : Nat) (positive : 0 < width) (value : BitVec (4 * width)) :
    (hexadecimal width positive).write value =
      paddedHex width value.toNat := rfl

theorem mem_toDigits_sixteen {value : Nat} {digit : Char} :
    digit ∈ Nat.toDigits 16 value →
      ∃ place < 16, digit = Nat.digitChar place := by
  induction value using Nat.strongRecOn with
  | ind value inductionHypothesis =>
      have sixteen : 1 < 16 := by decide
      by_cases small : value < 16
      · rw [Nat.toDigits_of_lt_base small, List.mem_singleton]
        exact fun same => ⟨value, small, same⟩
      · have smaller : value / 16 < value := by omega
        rw [Nat.toDigits_of_base_le sixteen (Nat.le_of_not_lt small),
          List.mem_append, List.mem_singleton]
        rintro (front | last)
        · exact inductionHypothesis _ smaller front
        · exact ⟨value % 16, Nat.mod_lt _ (by decide), last⟩

theorem toLower_toUpper_digitChar :
    ∀ place < 16,
      (Nat.digitChar place).toUpper.toLower = Nat.digitChar place := by
  decide

theorem map_toLower_map_toUpper (width value : Nat) :
    ((paddedHex width value).map Char.toUpper).map Char.toLower =
      paddedHex width value := by
  rw [List.map_map, List.map_congr_left, List.map_id]
  intro digit member
  rw [paddedHex, List.mem_append] at member
  rcases member with zero | written
  · rw [List.eq_of_mem_replicate zero]
    rfl
  · obtain ⟨place, small, rfl⟩ := mem_toDigits_sixteen written
    exact toLower_toUpper_digitChar place small

/-- The same with capital letters. -/
def upperHexadecimal (width : Nat) (positive : 0 < width) :
    TextCodec (BitVec (4 * width)) :=
  fixedWidth width
    (fun value => (paddedHex width value.toNat).map Char.toUpper)
    (fun text =>
      BitVec.ofNat (4 * width) (hexNumber (text.map Char.toLower)))
    (fun value => by
      rw [List.length_map]
      exact paddedHex_length_word positive value)
    (fun value => by
      rw [map_toLower_map_toUpper, hexNumber_paddedHex, BitVec.ofNat_toNat,
        BitVec.setWidth_eq])

end TextCodec

/-- The characters of a message, as the bytes of a `std::string`. -/
def messageBytes (message : String) : List (BitVec 8) :=
  message.toList.map (fun letter => BitVec.ofNat 8 letter.toNat)

/-- Bytes as a text with one character for each. -/
def byteText (bytes : List (BitVec 8)) : String :=
  String.ofList (bytes.map (fun value => Char.ofNat value.toNat))

@[simp]
theorem messageBytes_append (first second : String) :
    messageBytes (first ++ second) =
      messageBytes first ++ messageBytes second := by
  simp [messageBytes]

theorem length_messageBytes (message : String) :
    (messageBytes message).length = message.length := by
  rw [messageBytes, List.length_map, String.length_toList]

/-- Every byte is the code of a character. -/
@[simp]
theorem messageBytes_byteText (bytes : List (BitVec 8)) :
    messageBytes (byteText bytes) = bytes := by
  have back :
      ∀ value : BitVec 8,
        BitVec.ofNat 8 (Char.ofNat value.toNat).toNat = value := by
    intro value
    have valid : value.toNat.isValidChar := Or.inl (by omega)
    have code : (Char.ofNat value.toNat).toNat = value.toNat := by
      rw [Char.ofNat, dif_pos valid]
      rfl
    rw [code, BitVec.ofNat_toNat, BitVec.setWidth_eq]
  rw [messageBytes, byteText, String.toList_ofList, List.map_map]
  exact List.map_id'' back bytes

/-- The texts that a `std::string` can hold. -/
def IsByteText (text : String) : Prop :=
  ∀ letter ∈ text.toList, letter.toNat < 256

@[simp]
theorem isByteText_append_iff (first second : String) :
    IsByteText (first ++ second) ↔ IsByteText first ∧ IsByteText second := by
  rw [IsByteText, String.toList_append, List.forall_mem_append]
  rfl

theorem byteText_messageBytes
    {message : String} (small : IsByteText message) :
    byteText (messageBytes message) = message := by
  rw [byteText, messageBytes, List.map_map, List.map_congr_left,
    List.map_id, String.ofList_toList]
  intro letter member
  have fits := small letter member
  simp [Nat.mod_eq_of_lt fits]

end CyclePerfectGameboy
