import ServerForge.Json.Reader

/-! Objects as they are written: with their members in the order of the text and all of a key that
is repeated. Main statement: the reader of values is one that reads all members of an object first
and then gathers them by their keys; a second one of that kind leaves them as they are. -/
namespace ServerForge.Json

/-! ## Space before a value -/

theorem skipSpace_append {space : List Char} (blank : ∀ c ∈ space, isSpace c = true)
    (cs : List Char) : skipSpace (space ++ cs) = skipSpace cs :=
  List.dropWhile_append_of_pos blank

theorem skipSpace_visible {c : Char} (visible : isSpace c = false) (cs : List Char) :
    skipSpace (c :: cs) = c :: cs :=
  List.dropWhile_cons_of_neg (by simp [visible])

/-- A value is read from the first character that is seen. -/
theorem readValue_congr {cs ds : List Char} (same : skipSpace cs = skipSpace ds) (room : Nat) :
    readValue room cs = readValue room ds := by
  rw [readValue, readValue, same]

theorem readValue_space {space : List Char} (blank : ∀ c ∈ space, isSpace c = true) (room : Nat)
    (cs : List Char) : readValue room (space ++ cs) = readValue room cs :=
  readValue_congr (skipSpace_append blank cs) room

/-! ## Members -/

/-- The members up to the end of the object, each as it is written. -/
def readEntries (value : Reader Json) : Nat → Bool → Reader Members
  | 0, _, _ => throw ⟨.endInObject, 0⟩
  | bound + 1, first, cs => do
    match ← nextKey first cs with
    | none => return ([], cs)
    | some rest =>
      let (key, rest) ← readString rest
      let ((), rest) ← readColon rest
      let (v, rest) ← value rest
      let (entries, rest) ← readEntries value bound false rest
      return ((String.ofList key, v) :: entries, rest)

/-- An object after its opening brace. -/
def readEntriesBody (value : Reader Json) : Reader Members := fun cs => do
  let (entries, rest) ← readEntries value (cs.length + 1) true cs
  let ((), rest) ← closeObject rest
  return (entries, rest)

theorem readMembers_eq (value : Reader Json) (bound : Nat) (first : Bool) (into : Members)
    (cs : List Char) :
    readMembers value bound first into cs =
      (readEntries value bound first cs).map fun read => (insertAll read.1 into, read.2) := by
  induction bound generalizing first into cs with
  | zero => rfl
  | succ bound ih =>
    rw [readMembers, readEntries]
    cases nextKey first cs with
    | error fault => rfl
    | ok key =>
      cases key with
      | none => rfl
      | some rest =>
        cases string : readString rest with
        | error fault => simp [string, bind, Except.bind, Except.map]
        | ok key =>
          cases colon : readColon key.2 with
          | error fault => simp [string, colon, bind, Except.bind, Except.map]
          | ok after =>
            cases read : value after.2 with
            | error fault => simp [string, colon, read, bind, Except.bind, Except.map]
            | ok v =>
              simp only [string, colon, read, bind, Except.bind, ih]
              cases readEntries value bound false v.2 <;> rfl

theorem readObjectBody_eq (value : Reader Json) (cs : List Char) :
    readObjectBody value cs =
      (readEntriesBody value cs).map fun read => (insertAll read.1 [], read.2) := by
  rw [readObjectBody, readEntriesBody, readMembers_eq]
  cases entries : readEntries value (cs.length + 1) true cs with
  | error fault => rfl
  | ok read =>
    simp only [Except.map, bind, Except.bind]
    cases closeObject read.2 <;> rfl

/-! ## Values -/

/-- A reader of values that gathers the members of an object after it has read them. -/
def readValueWith (gather : Members → Members) : Nat → Reader Json
  | 0, cs => readValue 0 cs
  | room + 1, cs =>
    match skipSpace cs with
    | '[' :: rest => do
      let (items, rest) ← readListBody (readValueWith gather room) rest
      return (.arr items, rest)
    | '\x7b' :: rest => do
      let (entries, rest) ← readEntriesBody (readValueWith gather room) rest
      return (.obj (gather entries), rest)
    | _ => readValue (room + 1) cs

theorem readValue_of_skipSpace {room : Nat} {cs rest : List Char} (same : skipSpace cs = rest)
    (again : skipSpace rest = rest) : readValue room cs = readValue room rest :=
  readValue_congr (same.trans again.symm) room

theorem readValue_list (room : Nat) (cs : List Char) :
    readValue (room + 1) ('[' :: cs) =
      (readListBody (readValue room) cs).map fun read => (.arr read.1, read.2) := by
  rw [readValue, skipSpace_visible (by decide)]
  change (readListBody (readValue room) cs >>= fun read => pure (arr read.1, read.2)) = _
  cases readListBody (readValue room) cs <;> rfl

theorem readValue_object (room : Nat) (cs : List Char) :
    readValue (room + 1) ('{' :: cs) =
      (readObjectBody (readValue room) cs).map fun read => (.obj read.1, read.2) := by
  rw [readValue, skipSpace_visible (by decide)]
  change (readObjectBody (readValue room) cs >>= fun read => pure (obj read.1, read.2)) = _
  cases readObjectBody (readValue room) cs <;> rfl

/-- Reading a value is reading it with the members of each object put in order. -/
theorem readValueWith_insertAll (room : Nat) :
    readValueWith (insertAll · []) room = readValue room := by
  induction room with
  | zero => rfl
  | succ room ih =>
    funext cs
    unfold readValueWith
    rw [ih]
    split
    next rest same =>
      rw [readValue_of_skipSpace same (skipSpace_visible (by decide) rest), readValue_list]
      cases readListBody (readValue room) rest <;> rfl
    next rest same =>
      rw [readValue_of_skipSpace same (skipSpace_visible (by decide) rest), readValue_object,
        readObjectBody_eq]
      cases readEntriesBody (readValue room) rest <;> rfl
    next => rfl

/-- The value of a whole text, with the members of each object as they are written. -/
def parseWritten (text : String) : Except Fault Json :=
  readWhole (readValueWith id depthLimit) text.toList

end ServerForge.Json
