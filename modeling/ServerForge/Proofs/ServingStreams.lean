import ServerForge.Proofs.Utf8Decoding
import ServerForge.Server

/-! Streams of requests. Main statement: serving two streams one after the other is serving them as
one, if the first ends where a line ends; how the lines end makes no difference; and a line that is
no UTF-8 is where the server stops. -/
namespace ServerForge

/-! ## Streams as lines -/

namespace Text

/-- The stream ends where a line ends. -/
def Closed (stream : List UInt8) : Prop := stream = [] ∨ stream.getLast? = some 10

/-- A line of a stream, between what stands before it and what comes after, its end included. -/
structure LineAt (before line after : List UInt8) : Prop where
  starts : Closed before
  unbroken : 10 ∉ line
  ends : after = [] ∨ after.head? = some 10

/-- Every line of the stream is UTF-8. -/
def Utf8Lines (stream : List UInt8) : Prop :=
  ∀ before line after, stream = before ++ line ++ after → LineAt before line after →
    Utf8.IsUtf8 line

/-- The streams that spell the lines: each ends in a line feed, with or without a carriage return,
and the last one need not. -/
inductive Spells : List (List UInt8) → List UInt8 → Prop where
  | none : Spells [] []
  | last (line : List UInt8) : Spells [line] line
  | feed {lines : List (List UInt8)} {stream : List UInt8} (line : List UInt8)
    (rest : Spells lines stream) : Spells (line :: lines) (line ++ 10 :: stream)
  | returnFeed {lines : List (List UInt8)} {stream : List UInt8} (line : List UInt8)
    (rest : Spells lines stream) : Spells (line :: lines) (line ++ 13 :: 10 :: stream)

theorem dropReturn_of_getLast? {line : List UInt8} (whole : line.getLast? ≠ some 13) :
    dropReturn line = line := if_neg whole

theorem dropReturn_append (line : List UInt8) : dropReturn (line ++ [13]) = line := by
  rw [dropReturn, if_pos List.getLast?_concat, List.dropLast_concat]

theorem byteLines_go (held line rest : List UInt8) (unbroken : 10 ∉ line) :
    byteLines.go held (line ++ rest) = byteLines.go (line.reverse ++ held) rest := by
  induction line generalizing held with
  | nil => rfl
  | cons b line ih =>
    have other : b ≠ 10 := fun feed => unbroken (feed ▸ List.mem_cons_self)
    rw [List.cons_append, byteLines.go, if_neg other,
      ih _ fun inside => unbroken (List.mem_cons_of_mem b inside)]
    simp

theorem byteLines_eq_go (stream : List UInt8) : byteLines stream = byteLines.go [] stream := by
  cases stream <;> rfl

theorem byteLines_feed {line : List UInt8} (unbroken : 10 ∉ line) (rest : List UInt8) :
    byteLines (line ++ 10 :: rest) = dropReturn line :: byteLines rest := by
  rw [byteLines_eq_go, byteLines_go [] line _ unbroken, byteLines.go, if_pos rfl, byteLines_eq_go]
  simp

theorem byteLines_last {line : List UInt8} (unbroken : 10 ∉ line) :
    byteLines line = if line = [] then [] else [line] := by
  have split := byteLines_go [] line [] unbroken
  rw [List.append_nil, List.append_nil] at split
  rw [byteLines_eq_go, split, byteLines.go]
  simp

/-- A closed stream is a list of lines with a line feed after each. -/
theorem Closed.exists_lines {stream : List UInt8} (closed : Closed stream) :
    ∃ lines : List (List UInt8), (∀ line ∈ lines, 10 ∉ line) ∧
      stream = lines.flatMap (· ++ [10]) := by
  induction stream with
  | nil => exact ⟨[], by simp, rfl⟩
  | cons b stream ih =>
    by_cases single : stream = []
    · subst single
      obtain none | last := closed
      · cases none
      · obtain rfl : b = 10 := by simpa using last
        exact ⟨[[]], by simp, rfl⟩
    · have later : Closed stream := .inr (by
        obtain none | last := closed
        · cases none
        · rwa [List.getLast?_cons_of_ne_nil single] at last)
      obtain ⟨lines, unbroken, rfl⟩ := ih later
      by_cases feed : b = 10
      · subst feed
        exact ⟨[] :: lines, by simpa using unbroken, rfl⟩
      · cases lines with
        | nil => exact absurd rfl single
        | cons line lines =>
          refine ⟨(b :: line) :: lines, ?_, rfl⟩
          intro other member
          rcases List.mem_cons.mp member with rfl | inside
          · intro within
            rcases List.mem_cons.mp within with same | within
            · exact feed same.symm
            · exact unbroken line List.mem_cons_self within
          · exact unbroken other (List.mem_cons_of_mem line inside)

theorem byteLines_flatMap_append {lines : List (List UInt8)} (unbroken : ∀ line ∈ lines, 10 ∉ line)
    (rest : List UInt8) :
    byteLines (lines.flatMap (· ++ [10]) ++ rest) = lines.map dropReturn ++ byteLines rest := by
  induction lines with
  | nil => rfl
  | cons line lines ih =>
    rw [List.flatMap_cons, List.append_assoc, List.append_assoc, List.singleton_append,
      byteLines_feed (unbroken line List.mem_cons_self),
      ih fun other member => unbroken other (List.mem_cons_of_mem line member)]
    rfl

theorem byteLines_flatMap {lines : List (List UInt8)} (unbroken : ∀ line ∈ lines, 10 ∉ line) :
    byteLines (lines.flatMap (· ++ [10])) = lines.map dropReturn := by
  simpa [byteLines] using byteLines_flatMap_append unbroken []

theorem byteLines_append {before : List UInt8} (closed : Closed before) (after : List UInt8) :
    byteLines (before ++ after) = byteLines before ++ byteLines after := by
  obtain ⟨lines, unbroken, rfl⟩ := closed.exists_lines
  rw [byteLines_flatMap_append unbroken, byteLines_flatMap unbroken]

theorem closed_flatMap (lines : List (List UInt8)) : Closed (lines.flatMap (· ++ [10])) := by
  obtain rfl | ⟨before, line, rfl⟩ := lines.eq_nil_or_concat
  · exact .inl rfl
  · exact .inr (by simp)

/-- A carriage return stands for itself in UTF-8. -/
theorem isUtf8_dropReturn {line : List UInt8} :
    Utf8.IsUtf8 (dropReturn line) ↔ Utf8.IsUtf8 line := by
  by_cases last : line.getLast? = some 13
  · obtain ⟨before, rfl⟩ := List.getLast?_eq_some_iff.mp last
    rw [dropReturn_append]
    exact (Utf8.isUtf8_append_iff (by decide)).symm
  · rw [dropReturn_of_getLast? last]

theorem Utf8Lines.byteLines {stream : List UInt8} (valid : Utf8Lines stream)
    (closed : Closed stream) : ∀ line ∈ byteLines stream, Utf8.IsUtf8 line := by
  obtain ⟨lines, unbroken, rfl⟩ := closed.exists_lines
  rw [byteLines_flatMap unbroken]
  intro line member
  obtain ⟨row, inside, rfl⟩ := List.mem_map.mp member
  obtain ⟨before, after, rfl⟩ := List.append_of_mem inside
  refine isUtf8_dropReturn.mpr (valid (before.flatMap (· ++ [10])) row
    (10 :: after.flatMap (· ++ [10])) (by simp) ?_)
  exact ⟨closed_flatMap before, unbroken row inside, .inr rfl⟩

/-- A line that is no UTF-8 is not dropped, and is none without its carriage return either. -/
theorem LineAt.byteLines {before line after : List UInt8} (here : LineAt before line after)
    (invalid : ¬Utf8.IsUtf8 line) :
    ∃ first rest, Text.byteLines (before ++ line ++ after) = Text.byteLines before ++ first :: rest ∧
      ¬Utf8.IsUtf8 first := by
  rw [List.append_assoc, byteLines_append here.starts]
  obtain rfl | feed := here.ends
  · have visible : line ≠ [] := by
      rintro rfl
      exact invalid (Utf8.isUtf8_iff.mpr ⟨[], rfl⟩)
    refine ⟨line, [], ?_, invalid⟩
    rw [List.append_nil, byteLines_last here.unbroken, if_neg visible]
  · obtain ⟨rest, rfl⟩ := List.head?_eq_some_iff.mp feed
    refine ⟨dropReturn line, Text.byteLines rest, ?_, mt isUtf8_dropReturn.mp invalid⟩
    rw [byteLines_feed here.unbroken]

end Text

/-! ## Runs -/

namespace Server

open Text Text.Utf8

/-- What serving comes to: what is written, why it ended early, if so, and the server and the world
that it leaves. -/
structure Run (World : Type) extends Served where
  server : Server
  world : World

variable {World : Type}

/-- A run, and what comes after it unless it stopped. -/
def Run.andThen (first : Run World) (next : Server → World → Run World) : Run World :=
  match first.stopped with
  | some _ => first
  | none =>
    let second := next first.server first.world
    { second with output := first.output ++ second.output }

theorem Run.andThen_assoc (first : Run World) (second third : Server → World → Run World) :
    (first.andThen second).andThen third =
      first.andThen fun server world => (second server world).andThen third := by
  obtain ⟨⟨output, stopped⟩, server, world⟩ := first
  cases stopped with
  | some fault => rfl
  | none =>
    cases later : (second server world).stopped with
    | some fault => simp [andThen, later]
    | none => simp [andThen, later]

theorem Run.andThen_congr {next other : Server → World → Run World} (first : Run World)
    (same : ∀ server world, next server world = other server world) :
    first.andThen next = first.andThen other :=
  congrArg first.andThen (funext fun server => funext fun world => same server world)

theorem Run.andThen_of_finished {first : Run World} (finished : first.stopped = none)
    (next : Server → World → Run World) :
    let second := next first.server first.world
    first.andThen next = { second with output := first.output ++ second.output } := by
  rw [andThen, finished]

theorem Run.andThen_of_stopped {first : Run World} {fault : Fault}
    (stopped : first.stopped = some fault) (next : Server → World → Run World) :
    first.andThen next = first := by
  rw [andThen, stopped]

def Run.of (done : (Served × Server) × World) : Run World := ⟨done.1.1, done.1.2, done.2⟩

variable [Files.Access (StateM World)]

/-- Serving these lines. -/
def runLines (server : Server) (world : World) (lines : List (List UInt8)) : Run World :=
  .of ((server.serveLines lines : StateM World _).run world)

/-- Serving this stream. -/
def runStream (server : Server) (world : World) (input : List UInt8) : Run World :=
  .of ((server.serve input : StateM World _).run world)

theorem runStream_eq (server : Server) (world : World) (input : List UInt8) :
    runStream server world input = runLines server world (byteLines input) := rfl

/-- Answering one text. -/
def runText (server : Server) (world : World) (text : List Char) : Run World :=
  let answered := (server.answer (String.ofList text) : StateM World _).run world
  { output := (answered.1.1.map responseLine).toList
    stopped := none
    server := answered.1.2
    world := answered.2 }

/-- Answering texts, one after the other. -/
def runTexts (server : Server) (world : World) : List (List Char) → Run World
  | [] => ⟨⟨[], none⟩, server, world⟩
  | text :: texts => (runText server world text).andThen (runTexts · · texts)

theorem runLines_ok (server : Server) (world : World) {line : List UInt8} {text : List Char}
    (decoded : decode line = .ok text) (rest : List (List UInt8)) :
    runLines server world (line :: rest) =
      (runText server world text).andThen (runLines · · rest) := by
  rw [runLines, serveLines, decoded]
  rfl

theorem runLines_error (server : Server) (world : World) {line : List UInt8} {fault : Fault}
    (failed : decode line = .error fault) (rest : List (List UInt8)) :
    runLines server world (line :: rest) = ⟨⟨[], some fault⟩, server, world⟩ := by
  rw [runLines, serveLines, failed]
  rfl

theorem runLines_append (server : Server) (world : World) (before after : List (List UInt8)) :
    runLines server world (before ++ after) =
      (runLines server world before).andThen (runLines · · after) := by
  induction before generalizing server world with
  | nil => rfl
  | cons line before ih =>
    rw [List.cons_append]
    cases decoded : decode line with
    | error fault =>
      rw [runLines_error server world decoded, runLines_error server world decoded]
      rfl
    | ok cs =>
      rw [runLines_ok server world decoded, runLines_ok server world decoded, Run.andThen_assoc]
      exact Run.andThen_congr _ ih

theorem runLines_cons (server : Server) (world : World) (line : List UInt8)
    (rest : List (List UInt8)) :
    runLines server world (line :: rest) =
      (runLines server world [line]).andThen (runLines · · rest) :=
  runLines_append server world [line] rest

theorem runLines_finishes (server : Server) (world : World) {lines : List (List UInt8)}
    (valid : ∀ line ∈ lines, IsUtf8 line) : (runLines server world lines).stopped = none := by
  induction lines generalizing server world with
  | nil => rfl
  | cons line lines ih =>
    obtain ⟨cs, decoded⟩ := isUtf8_iff_decode.mp (valid line List.mem_cons_self)
    rw [runLines_ok server world decoded]
    exact ih _ _ fun other member => valid other (List.mem_cons_of_mem line member)

theorem runLines_encode (server : Server) (world : World) (texts : List (List Char)) :
    runLines server world (texts.map encode) = runTexts server world texts := by
  induction texts generalizing server world with
  | nil => rfl
  | cons text texts ih =>
    rw [List.map_cons, runLines_ok server world (decode_eq_ok_iff.mpr rfl), runTexts]
    exact Run.andThen_congr _ ih

/-- An empty line is no line to the server. -/
theorem runLines_empty (server : Server) (world : World) :
    runLines server world [[]] = runLines server world [] := by
  rw [runLines_ok server world (show decode [] = .ok [] from rfl)]
  rfl

theorem runStream_append (server : Server) (world : World) {before : List UInt8}
    (closed : Closed before) (after : List UInt8) :
    runStream server world (before ++ after) =
      (runStream server world before).andThen (runStream · · after) := by
  rw [runStream_eq, byteLines_append closed, runLines_append]
  rfl

theorem runStream_feed (server : Server) (world : World) {line : List UInt8} (unbroken : 10 ∉ line)
    (rest : List UInt8) :
    runStream server world (line ++ 10 :: rest) =
      (runLines server world [dropReturn line]).andThen (runStream · · rest) := by
  rw [runStream_eq, byteLines_feed unbroken, runLines_cons]
  rfl

/-- However the lines are spelled, they are served as they are. -/
theorem runStream_of_spells {lines : List (List UInt8)} {stream : List UInt8}
    (spells : Spells lines stream)
    (whole : ∀ line ∈ lines, 10 ∉ line ∧ line.getLast? ≠ some 13) (server : Server)
    (world : World) : runStream server world stream = runLines server world lines := by
  induction spells generalizing server world with
  | none => rfl
  | last line =>
    rw [runStream_eq, byteLines_last (whole line List.mem_cons_self).1]
    split
    next empty => rw [empty, runLines_empty]
    next => rfl
  | @feed lines stream line spelled ih =>
    obtain ⟨unbroken, kept⟩ := whole line List.mem_cons_self
    have later := ih fun other member => whole other (List.mem_cons_of_mem line member)
    rw [runStream_feed server world unbroken, dropReturn_of_getLast? kept,
      runLines_cons server world line lines]
    exact Run.andThen_congr _ later
  | @returnFeed lines stream line spelled ih =>
    obtain ⟨unbroken, _⟩ := whole line List.mem_cons_self
    have later := ih fun other member => whole other (List.mem_cons_of_mem line member)
    have returned : 10 ∉ line ++ [13] := by simpa using unbroken
    have moved : line ++ 13 :: 10 :: stream = (line ++ [13]) ++ 10 :: stream := by simp
    rw [moved, runStream_feed server world returned, dropReturn_append,
      runLines_cons server world line lines]
    exact Run.andThen_congr _ later

theorem runStream_invalid (server : Server) (world : World) {before line after : List UInt8}
    (here : LineAt before line after) (invalid : ¬IsUtf8 line) :
    let first := runStream server world before
    ∃ fault, runStream server world (before ++ line ++ after) =
      { first with stopped := some fault } := by
  intro first
  obtain ⟨line, rest, split, invalid⟩ := here.byteLines invalid
  rw [runStream_eq, split, runLines_append, ← runStream_eq]
  cases ended : first.stopped with
  | some fault =>
    refine ⟨fault, (Run.andThen_of_stopped ended _).trans ?_⟩
    rw [← ended]
  | none =>
    cases decoded : decode line with
    | ok text => exact absurd (isUtf8_iff_decode.mpr ⟨text, decoded⟩) invalid
    | error fault =>
      refine ⟨fault, (Run.andThen_of_finished ended _).trans ?_⟩
      rw [runLines_error first.server first.world decoded, List.append_nil]

/-- A stream whose lines are UTF-8 and end is served before whatever comes after it, with nothing
of the one left over for the other. How lines are ended makes no difference, and the texts that they
hold are answered as they stand. A line that is no UTF-8 ends the run after what was written for
those before it. -/
theorem serving_is_compositional (server : Server) (world : World) :
    (∀ before after, Closed before → Utf8Lines before →
      let first := runStream server world before
      let second := runStream first.server first.world after
      first.stopped = none ∧ runStream server world (before ++ after) =
        { second with output := first.output ++ second.output }) ∧
    (∀ lines one other, (∀ line ∈ lines, 10 ∉ line ∧ line.getLast? ≠ some 13) →
      Spells lines one → Spells lines other →
      runStream server world one = runStream server world other) ∧
    (∀ texts stream, (∀ line ∈ texts.map encode, 10 ∉ line ∧ line.getLast? ≠ some 13) →
      Spells (texts.map encode) stream →
      runStream server world stream = runTexts server world texts) ∧
    ∀ before line after, LineAt before line after → ¬IsUtf8 line →
      let first := runStream server world before
      ∃ fault, runStream server world (before ++ line ++ after) =
        { first with stopped := some fault } := by
  refine ⟨fun before after closed valid => ?_, fun lines one other whole spelled again => ?_,
    fun texts stream whole spelled => ?_,
    fun before line after here invalid => runStream_invalid server world here invalid⟩
  · have finished : (runStream server world before).stopped = none :=
      runLines_finishes server world (valid.byteLines closed)
    exact ⟨finished, (runStream_append server world closed after).trans
      (Run.andThen_of_finished finished _)⟩
  · rw [runStream_of_spells spelled whole, runStream_of_spells again whole]
  · rw [runStream_of_spells spelled whole, runLines_encode]

end Server

end ServerForge
