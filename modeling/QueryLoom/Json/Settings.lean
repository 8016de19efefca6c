import QueryLoom.Json.Reader

/-!
# Settings

JSON objects whose members set one thing each, read into a value in which everything is set
already.

* `Json.Setting` : a name with the reader of what it sets;
* `Json.readSettings` : an object with any of the names at most once, or an array with values for
  the first few of them in order.
-/

namespace QueryLoom.Json

/-- A name with the reader of what it sets in a `σ`. -/
structure Setting (σ : Type) where
  name : String
  read : Reader (σ → σ)

/-- A setting whose values are read by a given reader. -/
def Setting.of {σ α : Type} (name : String) (read : Reader α) (set : α → σ → σ) : Setting σ where
  name := name
  read := fun cs => (read cs).map fun r => (set r.1, r.2)

variable {σ : Type}

/-- Members up to and with the closing brace. A name that sets nothing is passed over with its
value; one that was there before is refused before its value is looked at. Each member takes at
least one character, so `fuel` never runs out when it is the length of the text. -/
def readNamed (settings : List (Setting σ)) :
    (fuel : Nat) → (first : Bool) → (seen : List String) → σ → Reader σ
  | 0, _, _, _, cs => fail .endInObject cs
  | fuel + 1, first, seen, s, cs => do
    match ← nextMember first cs with
    | none => .ok (s, (skipSpace cs).tail)
    | some cs =>
      let (name, cs) ← readText cs
      match settings.find? fun setting => setting.name == name with
      | none =>
        let cs ← readColon cs
        let cs ← skipValue cs
        readNamed settings fuel false seen s cs
      | some setting =>
        if seen.contains name then .error .mismatched
        else
          let cs ← readColon cs
          let (set, cs) ← setting.read cs
          readNamed settings fuel false (name :: seen) (set s) cs

/-- Values in the order of the settings; the array may end early. The closing bracket is left
unread. -/
def readOrdered : List (Setting σ) → (first : Bool) → σ → Reader σ
  | [], _, s, cs => .ok (s, cs)
  | setting :: settings, first, s, cs => do
    match ← nextItem first cs with
    | none => .ok (s, cs)
    | some cs =>
      let (set, cs) ← setting.read cs
      readOrdered settings false (set s) cs

/-- Settings as an object or an array. `complete` says whether everything that has to be set was
set; that is looked at before what stands behind the values of an array. -/
def readSettings {τ : Type} (settings : List (Setting σ)) (s : σ) (complete : σ → Option τ) :
    Reader τ := atValue fun c rest =>
  let completed (s : σ) : Except Fault τ :=
    match complete s with
    | some t => .ok t
    | none => .error .mismatched
  if c = '\x7b' then do
    let (s, cs) ← readNamed settings (rest.length + 1) true [] s rest
    let t ← completed s
    .ok (t, cs)
  else if c = '[' then do
    let (s, cs) ← readOrdered settings true s rest
    let t ← completed s
    let cs ← closeArray cs
    .ok (t, cs)
  else .error (mismatch (c :: rest))

end QueryLoom.Json
