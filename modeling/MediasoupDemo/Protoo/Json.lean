/-!
# JSON objects

The part of `org.json` that the protoo client reads messages with.  An object
keeps its members in the order in which they were put.  The accessors `opt...`
are tolerant: a member that is absent or of another type gives a default.

Parsing and printing texts is not modelled.  `OrgJson` holds them as
parameters, with the other conversions that depend on the texts of numbers.
-/

namespace MediasoupDemo.Protoo

/-- A `double`, of which the accessors read the text and the `long` value. -/
structure JavaDouble where
  text : String
  longValue : Int

/-- A value in a JSON object.  An `Integer` or a `Long` is an `int`. -/
inductive Json where
  | null
  | bool (b : Bool)
  | int (n : Int)
  | double (d : JavaDouble)
  | string (s : String)
  | array (items : List Json)
  | object (members : List (String × Json))

abbrev JSONObject := List (String × Json)

/-- What is left to the library. -/
structure OrgJson where
  /-- `new JSONObject(raw)`, with `none` for a `JSONException`. -/
  parse : String → Option JSONObject
  /-- `toString()` of an object. -/
  toString : JSONObject → String
  /-- `toString()` of an array. -/
  arrayToString : List Json → String
  /-- `(long) Double.parseDouble(s)`, with `none` for a `NumberFormatException`. -/
  parseDouble : String → Option Int

def OrgJson.valueOf (lib : OrgJson) : Json → String
  | .null => "null"
  | .bool b => if b then "true" else "false"
  | .int n => ToString.toString n
  | .double d => d.text
  | .string s => s
  | .array items => lib.arrayToString items
  | .object members => lib.toString members

namespace JSONObject

variable (object : JSONObject) (name : String)

/-- `opt(name)`. -/
def opt : Option Json :=
  (object.find? fun member => member.1 = name).map Prod.snd

/-- `put(name, value)`.  To put `null` is to remove the member. -/
def put : Option Json → JSONObject
  | none => object.filter fun member => member.1 ≠ name
  | some value =>
      if object.any fun member => member.1 = name then
        object.map fun member => if member.1 = name then (name, value) else member
      else object ++ [(name, value)]

/-- `optBoolean(name)`.  The texts of the two values are taken for them. -/
def optBoolean : Bool :=
  match object.opt name with
  | some (.bool b) => b
  | some (.string s) => s.toLower == "true"
  | _ => false

/-- `optString(name)`.  Any value has a text, `null` too. -/
def optString (lib : OrgJson) (object : JSONObject) (name : String) : String :=
  match object.opt name with
  | none => ""
  | some value => lib.valueOf value

def optLong (lib : OrgJson) (object : JSONObject) (name : String) : Int :=
  match object.opt name with
  | some (.int n) => n
  | some (.double d) => d.longValue
  | some (.string s) => (lib.parseDouble s).getD 0
  | _ => 0

/-- `optJSONObject(name)`. -/
def optJSONObject : Option JSONObject :=
  match object.opt name with
  | some (.object members) => some members
  | _ => none

theorem optJSONObject_ne_none {object : JSONObject} {name : String} :
    object.optJSONObject name ≠ none ↔ ∃ members, object.opt name = some (.object members) := by
  unfold optJSONObject
  split
  next members h => simp [h]
  next h =>
    simp only [ne_eq, not_true_eq_false, false_iff, not_exists]
    exact fun members heq => h members heq

/-! ## What is read after a `put` -/

@[simp] theorem opt_nil : opt [] name = none := rfl

theorem opt_filter (name name' : String) :
    opt (object.filter fun member => member.1 ≠ name) name' =
      if name' = name then none else object.opt name' := by
  unfold opt
  rw [List.find?_filter]
  by_cases h : name' = name
  · subst h
    simp
  · rw [if_neg h]
    congr 2
    funext member
    by_cases hmember : member.1 = name'
    · simp [hmember, h]
    · simp [hmember]

/-- A member is given another value in its place. -/
theorem opt_map {object : JSONObject} {name : String}
    (hany : object.any fun member => member.1 = name) (name' : String) (value : Json) :
    opt (object.map fun member => if member.1 = name then (name, value) else member) name' =
      if name' = name then some value else object.opt name' := by
  unfold opt
  rw [List.find?_map]
  by_cases h : name' = name
  · subst h
    have hsame : ((fun member : String × Json => decide (member.1 = name')) ∘
        fun member => if member.1 = name' then (name', value) else member) =
          fun member => decide (member.1 = name') := by
      funext member
      by_cases hmember : member.1 = name'
      · simp [hmember]
      · simp [hmember]
    obtain ⟨member, hin, hmember⟩ := List.any_eq_true.mp hany
    rw [hsame, if_pos rfl]
    cases hfind : object.find? fun member => decide (member.1 = name') with
    | none => exact absurd hmember (List.find?_eq_none.mp hfind member hin)
    | some found =>
      have hfound : found.1 = name' := by simpa using List.find?_some hfind
      simp [hfound]
  · have hsame : ((fun member : String × Json => decide (member.1 = name')) ∘
        fun member => if member.1 = name then (name, value) else member) =
          fun member => decide (member.1 = name') := by
      funext member
      by_cases hmember : member.1 = name
      · simp [hmember, Ne.symm h]
      · simp [hmember]
    rw [hsame, if_neg h]
    cases hfind : object.find? fun member => decide (member.1 = name') with
    | none => rfl
    | some found =>
      have hfound : found.1 = name' := by simpa using List.find?_some hfind
      simp [hfound, h]

/-- The member that was put is read back, and the others are as before. -/
@[simp] theorem opt_put (name name' : String) (value : Option Json) :
    (object.put name value).opt name' = if name' = name then value else object.opt name' := by
  cases value with
  | none => exact opt_filter object name name'
  | some value =>
    rw [put]
    split
    next hany => exact opt_map hany name' value
    next hnone =>
      have hfind : (object.find? fun member => member.1 = name) = none := by
        rw [List.find?_eq_none]
        intro member hmember heq
        exact hnone (List.any_eq_true.mpr ⟨member, hmember, heq⟩)
      unfold opt
      rw [List.find?_append]
      by_cases h : name' = name
      · subst h
        rw [hfind]
        simp
      · simp [h, Ne.symm h]

end JSONObject

/-! ## A library for given objects -/

mutual

/-- The text of a value, for strings that need no escapes. -/
def Json.print : Json → String
  | .null => "null"
  | .bool b => if b then "true" else "false"
  | .int n => ToString.toString n
  | .double d => d.text
  | .string s => "\"" ++ s ++ "\""
  | .array items => "[" ++ ",".intercalate (Json.printItems items) ++ "]"
  | .object members => "\x7b" ++ ",".intercalate (Json.printMembers members) ++ "\x7d"

/-- The texts of the items of an array. -/
def Json.printItems : List Json → List String
  | [] => []
  | item :: items => Json.print item :: Json.printItems items

def Json.printMember : String × Json → String
  | (name, value) => "\"" ++ name ++ "\":" ++ Json.print value

def Json.printMembers : List (String × Json) → List String
  | [] => []
  | member :: members => Json.printMember member :: Json.printMembers members

end

/-- A library that can parse the texts of the given objects. -/
def OrgJson.sample (objects : List JSONObject) : OrgJson where
  parse raw := objects.find? fun object => Json.print (.object object) = raw
  toString object := Json.print (.object object)
  arrayToString items := Json.print (.array items)
  parseDouble _ := none

end MediasoupDemo.Protoo
