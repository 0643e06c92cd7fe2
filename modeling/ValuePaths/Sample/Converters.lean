import ValuePaths.Registry.Convert
import ValuePaths.Sample.Records
import ValuePaths.Text.Case

/-!
# The converters of a sample program

A program installs converters of its own for the shapes it reads from text.  These are the
converters of a sample program that reads truth values as switches, bytes and lists of bytes
in its own notations, and two of its records from one text.  Each reads its text into a
value of the shape it is installed for, and refuses a text in words of its own.
-/

namespace ValuePaths

namespace Sample

/-- A truth value from `yes`/`on` or `no`/`off`. -/
def switch : Converter := ⟨fun raw =>
  match raw with
  | "yes" | "on" => .ok (.bool true)
  | "no" | "off" => .ok (.bool false)
  | _ => .error s!"`{raw}` is not a switch"⟩

/-- A `u16` in hexadecimal after `0x`, otherwise in decimal. -/
def hex : Converter := ⟨fun raw =>
  if raw.startsWith "0x" then
    match IntType.u16.readRadix 16 (String.ofList (raw.toList.drop 2)) with
    | .ok n => .ok (.int .u16 n)
    | .error f => .error f.message
  else IntType.u16.readValue raw⟩

/-- Text in upper case. -/
def upper : Converter := ⟨fun raw => .ok (.string (Text.upper raw))⟩

/-- Text that is not empty. -/
def nonEmpty : Converter := ⟨fun raw =>
  if raw.isEmpty then .error "empty string" else .ok (.string raw)⟩

/-- A `Leaf` from the number of its one field. -/
def leafNumber : Converter := ⟨fun raw =>
  match IntType.u32.read raw with
  | .ok n => .ok (.record leaf [.int .u32 n])
  | .error f => .error ("leaf needs a number: " ++ f.message)⟩

/-- An optional byte: `none`, or a byte. -/
def optionalByte : Converter := ⟨fun raw =>
  if raw == "none" then .ok (.option (.scalar (.int .u8)) none)
  else (fun v => .option (.scalar (.int .u8)) (some v)) <$> IntType.u8.readValue raw⟩

/-- A list of bytes separated by commas, stopping at the first that fails; the empty text is
the empty list. -/
def byteList : Converter := ⟨fun raw =>
  if raw.isEmpty then .ok (.list .contiguous (.scalar (.int .u8)) [])
  else (.list .contiguous (.scalar (.int .u8))) <$> (raw.splitOn ",").mapM IntType.u8.readValue⟩

/-- An `i32` above zero. -/
def positive : Converter := ⟨fun raw =>
  match IntType.i32.read raw with
  | .ok n => if n > 0 then .ok (.int .i32 n) else .error "must be positive"
  | .error f => .error f.message⟩

/-- A `NoDefault` from the truth value of its flag. -/
def flag : Converter := ⟨fun raw => (fun b => .record noDefault [.bool b]) <$> readBool raw⟩

end Sample

end ValuePaths
