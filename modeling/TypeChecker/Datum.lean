import TypeChecker.Text.Range

/-! Structured values: what configuration is read from and what reports are made of. -/

namespace TypeChecker

inductive Datum where
 | null
 | bool (val : Bool)
 | number (mantissa : Int) (places : Nat)
 | string (val : String)
 /-- A text that may hold unpaired surrogates. -/
 | text (units : Text)
 | array (items : Array Datum)
 | obj (fields : Array (String × Datum))
 deriving Inhabited

abbrev Datum? := Option Datum

/-- Values that stand for what a report says of them. -/
class Reported (α : Type) where
 datum : α -> Datum

namespace Datum

def int (val : Int) : Datum := .number val 0
def nat (val : Nat) : Datum := .number val 0
def list (items : List Datum) : Datum := .array items.toArray

/-- An object whose absent fields are left out. -/
def fields (ents : ByName Datum?) : Datum := .obj (ents.filterMap fun (name, val) => val.map (name, ·)).toArray

/-- An object by the names of its fields and the fields. -/
def named (names : String) (vals : List Datum?) := fields ((names.splitOn " ").zip vals)
def ofOption (val : Datum?) := val.getD .null
def strings (vals : Array String) : Datum := .array (vals.map .string)
def span (val : Span) : Datum := .array #[.nat val.start, .nat val.length]
def lineRange (val : LineRange) : Datum := .string val.print
instance : Reported Datum := ⟨id⟩
instance : Reported Bool := ⟨.bool⟩
instance : Reported String := ⟨.string⟩
instance : Reported Nat := ⟨.nat⟩
instance : Reported Text := ⟨.text⟩
instance : Reported LineRange := ⟨.lineRange⟩

section
variable {α : Type} [Reported α]
instance : Reported (Array α) := ⟨(.array <| ·.map Reported.datum)⟩
instance : Reported (List α) := ⟨(.list <| ·.map Reported.datum)⟩
instance : CoeHead α Datum := ⟨Reported.datum⟩

end

def failure (name msg : String) : Datum := .obj #[("error", .string name), ("message", .string msg)]

/-! Reading. -/

variable (datum : Datum) (field : String)
def get? : Datum? := if let .obj fields := datum then (fields.find? (·.1 == field)).map (·.2) else none

def asStr? : Datum -> String?
 | .string val => val
 | _ => none

def asBool? : Datum -> Bool?
 | .bool val => val
 | _ => none

def asInt? : Datum -> Int?
 | .number val 0 => val
 | _ => none

def asNat? := datum.asInt?.map (·.toNat)

def items : Datum -> Array Datum
 | .array items => items
 | _ => #[]

def ents : Datum -> Array (String × Datum)
 | .obj fields => fields
 | _ => #[]

def str? := (datum.get? field).bind asStr?
def int? : Int? := (datum.get? field).bind asInt?

/-- Whether a field is present and true. -/
def flag := ((datum.get? field).bind asBool?).getD false
def itemsOf := ((datum.get? field).map items).getD #[]
def entsOf := ((datum.get? field).map ents).getD #[]
def stringsOf := (datum.itemsOf field).filterMap asStr?

end Datum
end TypeChecker
