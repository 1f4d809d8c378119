import Sift.Declaration.Grammar

/-!
# Options

What the arguments of mapping attributes say. A field has a list of options, which may stand in one
attribute or in several; a struct has the name of its table. `Options.ofList` takes a field's
options together: marks add up, and of several columns the last counts.
-/
namespace Sift.Declaration

/-- One option of a field. -/
inductive FieldOption where
  | id
  | skip
  | column (name : String)
deriving DecidableEq

/-- The options of a field together. -/
structure Options where
  isKey : Bool
  isSkipped : Bool
  column : Option String
deriving DecidableEq

namespace Options

/-- No option is given. -/
def empty : Options := ⟨false, false, none⟩

/-- One more option. -/
def add (o : Options) : FieldOption → Options
  | .id => { o with isKey := true }
  | .skip => { o with isSkipped := true }
  | .column name => { o with column := some name }

/-- The options of a list together. -/
def ofList (os : List FieldOption) : Options := os.foldl add empty

@[simp] theorem ofList_nil : ofList [] = empty := rfl

@[simp] theorem ofList_append_singleton (os : List FieldOption) (o : FieldOption) :
    ofList (os ++ [o]) = (ofList os).add o := by
  simp [ofList]

end Options

namespace FieldOption

/-- Read the option at the front. -/
def read : List Token → Except Fault (FieldOption × List Token)
  | .word w :: rest =>
    if w ∈ Token.reserved then .error (.malformed (.reserved w))
    else if w = "id" then .ok (.id, rest)
    else if w = "skip" then .ok (.skip, rest)
    else if w = "column" then
      match rest with
      | .mark '=' _ :: .literal _ (.text name) :: behind => .ok (.column name, behind)
      | .mark '=' _ :: behind =>
        .error (.malformed (.expected behind.isEmpty ["string literal"]))
      | _ => .error (.malformed (.expected false ["`=`"]))
    else .error .fieldOptionUnknown
  | ts => .error (.malformed (.expected ts.isEmpty ["identifier"]))

/-- An option takes at least one token. -/
theorem length_of_read {ts rest : List Token} {o : FieldOption} (h : read ts = .ok (o, rest)) :
    rest.length < ts.length := by
  unfold read at h
  split at h
  · rename_i w behind
    split at h
    · cases h
    · split at h
      · cases h; simp
      · split at h
        · cases h; simp
        · split at h
          · split at h <;> cases h
            simp; omega
          · cases h
  · cases h

/-- Read options with commas between them; the last may have one behind it. -/
def readAll (ts : List Token) : Except Fault (List FieldOption) :=
  if ts.isEmpty then .ok []
  else
    match _first : read ts with
    | .error f => .error f
    | .ok (o, []) => .ok [o]
    | .ok (o, .mark ',' _ :: rest) => (readAll rest).map (o :: ·)
    | .ok _ => .error (.malformed (.leftover none))
termination_by ts.length
decreasing_by
  have := length_of_read _first
  simp at this
  omega

/-- The options of all mapping attributes of a field, in order. -/
def ofAttributes : List Attribute → Except Fault (List FieldOption)
  | [] => .ok []
  | a :: rest =>
    if a.isMapping then do
      let first ← readAll (← a.arguments)
      let more ← ofAttributes rest
      .ok (first ++ more)
    else ofAttributes rest

end FieldOption

/-- Read a path and a value behind its equals sign. -/
def pathAndValue (r : Rules) : Reader (Path × Expression) := do
  let path ← Attribute.readPath
  let value ← Attribute.readValue r
  return (path, value)

/-- Read the table name out of an attribute's arguments. -/
def readTable (ts : List Token) : Except Fault String :=
  match Grammar.run pathAndValue ts with
  | .error m => .error (.malformed m)
  | .ok (path, value) =>
    if !path.isName "table" then .error .tableOptionUnknown
    else
      match value.text? with
      | some name => .ok name
      | none => .error .tableNotString

/-- The table name of a struct, if its attributes have one. Only the first mapping attribute
counts. -/
def tableOfAttributes (attributes : List Attribute) : Except Fault (Option String) :=
  match attributes.find? Attribute.isMapping with
  | none => .ok none
  | some a => do
    let name ← readTable (← a.arguments)
    .ok (some name)

end Sift.Declaration
