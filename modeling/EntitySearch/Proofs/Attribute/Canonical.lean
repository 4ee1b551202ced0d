import EntitySearch.Proofs.Calendar.Reading
import EntitySearch.Proofs.Numbers.DecimalText
import EntitySearch.Proofs.Query.Spelling
import EntitySearch.Proofs.Text.Uuids

/-!
# Canonical texts

A literal is converted through its text, and a type takes many texts for one value: a UUID in braces
or without hyphens, a time with an offset, a decimal with an exponent or low lines, all of them with
white space around. The value is shown as one of these texts, its canonical one, and that is
converted to the same value again, with the scale of a decimal and the fraction and the leap second
of a time.

For each type this is about its reader and its writer alone. What a reader makes of any text the
writer puts into a text that is read the same way (`FieldType.valueOf?_display`), which is shown for
decimals, dates and UUIDs where these are treated. Trimming does not come in between, since there is
no white space in the texts of values (`NoBlank`); a text itself is not trimmed, and the name of a
constant was.
-/

namespace EntitySearch

namespace FieldType

/-- Trimming keeps the text of a value when there is no white space in it. -/
theorem trim_ofList {s : List Char} (plain : Text.NoBlank s) :
    Text.trim (String.ofList s).toList = s := by
  rw [String.toList_ofList, plain.trim]

/-- **The text of a value is read as the value**, whatever it was read from. -/
theorem valueOf?_display {type : FieldType} {text : String} {value : TypedValue}
    (read : type.valueOf? text = some value) (some : value ≠ .null) :
    type.valueOf? value.display = .some value := by
  -- both sizes of integers are read by one reader, which takes the text of whatever it gave
  have integer {low high i : Int} {s : List Char} (read : Number.readInt? low high s = .some i) :
      Number.readInt? low high (Text.trim (Number.intText i).toList) = .some i := by
    obtain ⟨-, -, -, -, above, below⟩ := Number.exists_isNumeral read
    rw [(Query.noBlank_intText i).trim, Number.intText, String.toList_ofList]
    exact Number.readInt?_intDigits above below
  cases type with
  | text =>
    obtain rfl := Option.some.inj read
    rfl
  | integer =>
    obtain ⟨i, found, rfl⟩ := Option.map_eq_some_iff.1 read
    exact congrArg (Option.map _) (integer found)
  | long =>
    obtain ⟨i, found, rfl⟩ := Option.map_eq_some_iff.1 read
    exact congrArg (Option.map _) (integer found)
  | double =>
    obtain ⟨x, found, rfl⟩ := Option.map_eq_some_iff.1 read
    -- what was read is a double, and a plain text leads back to every double
    show (Double.read? (Text.trim x.plain.toList)).map TypedValue.double = _
    rw [(Double.noBlank_plain x).trim, Double.read?_plain (Double.isDouble_of_read? found)]
    rfl
  | decimal =>
    obtain ⟨d, found, rfl⟩ := Option.map_eq_some_iff.1 read
    -- what was read has a scale and digits within bounds, and these are all that its text needs
    show (Decimal.read? (Text.trim d.text.toList)).map TypedValue.decimal = _
    rw [d.noBlank_text.trim, (Decimal.fits_of_read? found).read?_text]
    rfl
  | boolean =>
    obtain ⟨b, -, rfl⟩ := Option.map_eq_some_iff.1 read
    cases b <;> rfl
  | uuid =>
    -- the text is the hyphenated one, however the id was written
    obtain ⟨id, -, rfl⟩ := Option.map_eq_some_iff.1 read
    show (Uuid.read? (Text.trim id.text.toList)).map TypedValue.uuid = _
    rw [Uuid.text, trim_ofList id.noBlank_chars, Uuid.read?_chars]
    rfl
  | date =>
    -- the one layout of dates is that of the text
    obtain ⟨d, -, rfl⟩ := Option.map_eq_some_iff.1 read
    show (Calendar.readDate? (Text.trim d.text.toList)).map TypedValue.date = _
    rw [Date.text, trim_ofList d.noBlank_digits, Calendar.readDate?_digits]
    rfl
  | dateTime =>
    -- the text has no offset, so the layouts with one pass it on
    obtain ⟨dt, -, rfl⟩ := Option.map_eq_some_iff.1 read
    show (Calendar.readDateTime? (Text.trim dt.text.toList)).map TypedValue.dateTime = _
    rw [DateTime.text, trim_ofList dt.noBlank_digits, Calendar.readDateTime?_digits]
    rfl
  | enumeration constants =>
    have found {text : String} : (enumeration constants).valueOf? text =
        .some (if constants.contains (Text.trimmed text) then .constant (Text.trimmed text)
          else .null) := rfl
    rw [found] at read
    obtain rfl := Option.some.inj read
    split at some
    · next known =>
      -- the name is what trimming left of the text, and trimming leaves it as it is
      have twice : Text.trimmed (Text.trimmed text) = Text.trimmed text := by
        rw [Text.trimmed, Text.trimmed, String.toList_ofList, Text.trim_trim]
      have shown : (TypedValue.constant (Text.trimmed text)).display = Text.trimmed text := rfl
      rw [if_pos known, shown, found, twice, if_pos known]
    · exact absurd rfl some
  -- no text is converted for a field that holds no scalars
  | embedded | relation => cases read

end FieldType

namespace Field

/-- **Canonical texts are converted to the value that they show.** Whatever literal a value other
than null was converted from, its text is converted to the same value for the field. -/
theorem coerce_display {field : Field} {literal : Literal} {value : TypedValue}
    (converted : field.coerce literal = .ok value) (some : value ≠ .null) :
    field.coerce (.text value.display) = .ok value := by
  unfold coerce at converted
  split at converted
  · -- a null literal is the value null
    obtain rfl := Except.ok.inj converted
    exact absurd rfl some
  · split at converted
    · next found read =>
      -- a value that was found came from the text of the literal, and its own text leads back to it
      obtain rfl := Except.ok.inj converted
      obtain ⟨text, -, read⟩ := Option.bind_eq_some_iff.1 read
      have again :
          (Literal.text found.display).scalarText?.bind field.type.valueOf? = .some found :=
        FieldType.valueOf?_display read some
      unfold coerce
      rw [again]
      rfl
    · cases converted

/-- The last second of a day with a leap second, written with an offset and white space, is shown in
UTC with three places, and that is the same moment. -/
theorem coerce_display_leapSecond :
    let field : Field := ⟨"at", .dateTime⟩
    let value : TypedValue :=
      .dateTime ⟨⟨2016, 12, 31, by decide⟩, ⟨23, 59, 60, 500000000, by decide⟩⟩
    field.coerce (.text " 2017-01-01T00:59:60.5+01:00 ") = .ok value ∧
      value.display = "2016-12-31T23:59:60.500" ∧
      field.coerce (.text value.display) = .ok value := by
  intro field value
  have converted : field.coerce (.text " 2017-01-01T00:59:60.5+01:00 ") = .ok value := by rfl
  exact ⟨converted, by decide +kernel, coerce_display converted nofun⟩

end Field

end EntitySearch
