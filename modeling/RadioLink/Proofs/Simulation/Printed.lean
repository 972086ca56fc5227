import Mathlib.Data.List.Forall2
import Mathlib.Tactic.IntervalCases
import RadioLink.Simulation.Report

/-!
# What a simulation prints

The text of a report, format by format, for the events that a simulation was given
(`GivenEvent.printed`) and for its summary (`Summary.printed`): lines of JSON, tables, lines of
plain text, and raw payloads. An event is reported with its status, with the length that the radio
declares for it, and with as much of its payload as a frame has room for.

The texts are spelled out here as a reader of the output has them. `Course.data_print` says that
they are what is printed, if the frames that a simulation has taken show the events (`Shows`). JSON
is printed from a value, so its text has to be put together from the texts of the members
(`render_object`, `ofList_memberChars`, `render_array_encode`); no digit needs to be escaped in it.
-/

namespace RadioLink

namespace Simulation

open Json (Value)

/-! ## Texts -/

/-- Some bytes in base sixteen, two digits for each. -/
def hexText (bytes : List UInt8) : String :=
  String.ofList (bytes.flatMap fun byte =>
    [Nat.digitChar (byte.toNat / 16), Nat.digitChar (byte.toNat % 16)])

/-- The bytes of a text. -/
def utf8 (text : String) : List UInt8 :=
  text.toUTF8.data.toList

/-- An event as a simulation is given it, with its payload read. -/
structure GivenEvent where
  /-- The status byte. -/
  status : UInt8
  /-- The payload. -/
  payload : List UInt8

namespace GivenEvent

/-- The length that is reported of an event: that of its payload, or the greatest length there
is. -/
def length (event : GivenEvent) : Nat :=
  min event.payload.length 255

/-- The bytes that are reported of an event: the first 31 of its payload. -/
def shown (event : GivenEvent) : List UInt8 :=
  event.payload.take 31

/-- What is printed for an event with some index. -/
def printed (draw : Text.Table → String) (format : Format) (index : Nat) (event : GivenEvent) :
    List UInt8 :=
  match format with
  | .json => utf8 ("\x7b\"kind\":\"event\"" ++ s!",\"index\":{index}" ++
      s!",\"status\":{event.status.toNat}" ++ s!",\"length\":{event.length}" ++
      s!",\"payload\":\"{hexText event.shown}\"" ++ "\x7d\n")
  | .table => utf8 (draw
      { header := ["#", "STATUS", "LENGTH", "PAYLOAD"]
        rows := [[s!"{index}", s!"0x{hexText [event.status]}", s!"{event.length}",
          hexText event.shown]] } ++ "\n")
  | .pretty => utf8 (s!"event #{index} status=0x{hexText [event.status]}" ++
      s!" length={event.length} payload={hexText event.shown}\n")
  | .raw => event.shown

end GivenEvent

/-- What is printed for a summary. -/
def Summary.printed (draw : Text.Table → String) (format : Format) (s : Summary) : List UInt8 :=
  match format with
  | .json => utf8 ("\x7b\"kind\":\"summary\"" ++ s!",\"cycles\":{s.cycles}" ++
      s!",\"transfers\":{s.stats.transfers}" ++ s!",\"empty_polls\":{s.stats.emptyPolls}" ++
      s!",\"commands_sent\":{s.stats.commandsSent}" ++
      s!",\"events_received\":{s.stats.eventsReceived}" ++
      s!",\"events_dropped\":{s.stats.eventsDropped}" ++
      s!",\"backpressure_stalls\":{s.stats.backpressureStalls}" ++ ",\"delivered_commands\":[" ++
      ",".intercalate (s.delivered.map fun c => "\"" ++ hexText c ++ "\"") ++ "]\x7d\n")
  | .table => utf8 (draw
      { header := ["METRIC", "VALUE"]
        rows := [["cycles", s!"{s.cycles}"], ["transfers", s!"{s.stats.transfers}"],
          ["empty polls", s!"{s.stats.emptyPolls}"],
          ["commands sent", s!"{s.stats.commandsSent}"],
          ["events received", s!"{s.stats.eventsReceived}"],
          ["backpressure stalls", s!"{s.stats.backpressureStalls}"]] } ++ "\n")
  | .pretty => utf8 (s!"cycles={s.cycles} transfers={s.stats.transfers}" ++
      s!" empty_polls={s.stats.emptyPolls} commands_sent={s.stats.commandsSent}" ++
      s!" events_received={s.stats.eventsReceived} stalls={s.stats.backpressureStalls}\n") ++
      s.delivered.flatMap fun command => utf8 s!"radio got command {hexText command}\n"
  | .raw => []

/-! ## Digits -/

/-- The digits that are written are the usual ones. -/
theorem hexDigit_eq_digitChar {n : Nat} (h : n < 16) : Text.hexDigit n = Nat.digitChar n := by
  interval_cases n <;> rfl

/-- Bytes are encoded as two digits for each. -/
theorem encode_eq_hexText (bytes : List UInt8) : Text.Hex.encode bytes = hexText bytes := by
  rw [Text.Hex.encode, hexText]
  refine congrArg String.ofList (List.flatMap_congr fun byte _ => ?_)
  have hbyte : byte.toNat < 256 := byte.toNat_lt
  rw [Text.Hex.digitsOf, hexDigit_eq_digitChar (by omega), hexDigit_eq_digitChar (by omega)]

/-- A digit stands for itself in a JSON string. -/
theorem escaped_hexDigit {n : Nat} (h : n < 16) :
    Json.escaped (Text.hexDigit n) = [Text.hexDigit n] := by
  interval_cases n <;> rfl

/-! ## JSON -/

theorem toString_string (text : String) : toString text = text := rfl

/-- Two pieces of a text that are given can be put together in front of the rest. -/
theorem append_append_of_eq {a b ab : String} (h : a ++ b = ab) (rest : String) :
    a ++ (b ++ rest) = ab ++ rest := by
  rw [← String.append_assoc, h]

/-- Nothing in a text needs to be escaped. -/
structure Plain (text : String) : Prop where
  eq : text.toList.flatMap Json.escaped = text.toList

/-- The digits of bytes need no escapes. -/
theorem plain_encode (bytes : List UInt8) : Plain (Text.Hex.encode bytes) := by
  constructor
  rw [Text.Hex.encode, String.toList_ofList]
  induction bytes with
  | nil => rfl
  | cons byte bytes ih =>
    have hbyte : byte.toNat < 256 := byte.toNat_lt
    rw [List.flatMap_cons, List.flatMap_append, ih]
    simp only [Text.Hex.digitsOf, List.flatMap_cons, List.flatMap_nil,
      escaped_hexDigit (show byte.toNat / 16 < 16 by omega),
      escaped_hexDigit (show byte.toNat % 16 < 16 by omega), List.append_nil,
      List.singleton_append]

/-- A text without escapes is quoted as it is. -/
theorem Plain.quoted {text : String} (h : Plain text) :
    String.ofList (Json.Text.chars (some text)) = "\"" ++ text ++ "\"" := by
  rw [← String.toList_inj, String.toList_ofList, Json.Text.chars, h.eq]
  simp

theorem render_ofNat (n : Nat) : (Value.ofNat n).render = toString n := rfl

/-- A text without escapes is rendered in quotation marks. -/
theorem render_ofString {text : String} (h : Plain text) :
    (Value.ofString text).render = "\"" ++ text ++ "\"" :=
  h.quoted

/-- The text of an object is that of its first member and of those behind it. -/
theorem render_object {name : String} (h : Plain name) (v : Value)
    (members : List (Json.Text × Value)) :
    (Value.object ((some name, v) :: members)).render =
      "\x7b\"" ++ name ++ "\":" ++ v.render ++ String.ofList (Value.memberChars members) := by
  rw [← String.toList_inj]
  simp [Value.render, Value.chars, Json.Text.chars, h.eq]

/-- A member behind another one begins with a comma. -/
theorem ofList_memberChars {name : String} (h : Plain name) (v : Value)
    (members : List (Json.Text × Value)) :
    String.ofList (Value.memberChars ((some name, v) :: members)) =
      ",\"" ++ name ++ "\":" ++ v.render ++ String.ofList (Value.memberChars members) := by
  rw [← String.toList_inj]
  simp [Value.render, Value.memberChars, Json.Text.chars, h.eq]

theorem ofList_memberChars_nil : String.ofList (Value.memberChars []) = "\x7d" := rfl

/-- The strings of some bytes, of which there are some, with commas between them. -/
theorem render_append_itemChars (c : List UInt8) (commands : List (List UInt8)) :
    (Value.ofString (Text.Hex.encode c)).render ++
        String.ofList (Value.itemChars (commands.map fun c => .ofString (Text.Hex.encode c))) =
      ",".intercalate ((c :: commands).map fun c => "\"" ++ hexText c ++ "\"") ++ "]" := by
  induction commands generalizing c with
  | nil =>
    rw [render_ofString (plain_encode c), encode_eq_hexText]
    rfl
  | cons d commands ih =>
    have hitems : String.ofList (Value.itemChars ((d :: commands).map fun c =>
        .ofString (Text.Hex.encode c))) =
        "," ++ ((Value.ofString (Text.Hex.encode d)).render ++
          String.ofList (Value.itemChars
            (commands.map fun c => .ofString (Text.Hex.encode c)))) := by
      rw [← String.toList_inj]
      simp [Value.render, Value.itemChars]
    rw [hitems, ih, render_ofString (plain_encode c), encode_eq_hexText, List.map_cons,
      List.map_cons, List.map_cons, String.intercalate_cons_cons]
    simp only [String.append_assoc]

/-- The strings of some bytes between brackets. -/
theorem render_array_encode (commands : List (List UInt8)) :
    (Value.array (commands.map fun c => .ofString (Text.Hex.encode c))).render =
      "[" ++ ",".intercalate (commands.map fun c => "\"" ++ hexText c ++ "\"") ++ "]" := by
  cases commands with
  | nil => rfl
  | cons c commands =>
    rw [String.append_assoc, ← render_append_itemChars, ← String.toList_inj]
    simp [Value.render, Value.chars]

/-! ## Reports -/

/-- A frame shows an event: its status byte, the length of its payload up to the greatest length
there is, and as much of the payload as a frame has room for. -/
structure Shows (event : GivenEvent) (frame : StandardFrame) : Prop where
  status : frame.status = event.status
  length : frame.length.toNat = min event.payload.length 255
  payload : frame.payload = event.payload.take Frame.defaultCapacity

/-- A text that is printed as a line. -/
theorem data_asLine {line text : String} (h : line ++ "\n" = text) :
    (asLine line).data.toList = utf8 text :=
  congrArg utf8 h

/-- What is printed for a frame that shows an event is what is to be printed for the event. -/
theorem Shows.printed {event : GivenEvent} {frame : StandardFrame} (h : Shows event frame)
    (draw : Text.Table → String) (format : Format) (index : Nat) :
    (format.event draw index frame).data.toList = event.printed draw format index := by
  have hlength : frame.length.toNat = event.length := h.length
  have hpayload : frame.payload = event.shown := h.payload
  cases format with
  | json =>
    refine data_asLine ?_
    rw [eventJson, hlength, hpayload, h.status, render_object ⟨rfl⟩]
    repeat rw [ofList_memberChars ⟨rfl⟩]
    rw [render_ofString ⟨rfl⟩, render_ofString (plain_encode _), encode_eq_hexText,
      ofList_memberChars_nil]
    simp only [render_ofNat, toString_string, String.reduceAppend, String.append_assoc,
      append_append_of_eq (show ",\"payload\":" ++ "\"" = ",\"payload\":\"" from rfl)]
  | table =>
    rw [Format.event, eventTable, hlength, hpayload, h.status, markedHex, encode_eq_hexText,
      encode_eq_hexText]
    rfl
  | pretty =>
    refine data_asLine ?_
    rw [eventLine, hlength, hpayload, h.status, markedHex, encode_eq_hexText, encode_eq_hexText]
    simp only [toString_string, String.append_assoc,
      append_append_of_eq (show " status=" ++ "0x" = " status=0x" from rfl)]
  | raw =>
    rw [Format.event, hpayload, List.data_toByteArray]
    rfl

example : (Format.json.event Text.Table.render 3
      { status := 0x81, length := 2, storage := Frame.fill [0x02, 0xff] }).data.toList =
    utf8 ("\x7b\"kind\":\"event\",\"index\":3,\"status\":129,\"length\":2," ++
      "\"payload\":\"02ff\"\x7d\n") := by
  decide +kernel

/-- The bytes of a concatenation are those of its pieces. -/
theorem data_concat (pieces : List ByteArray) :
    (concat pieces).data.toList = pieces.flatMap (·.data.toList) := by
  suffices h : ∀ start : ByteArray, (pieces.foldl (· ++ ·) start).data.toList =
      start.data.toList ++ pieces.flatMap (·.data.toList) from h ByteArray.empty
  induction pieces with
  | nil => exact fun start => (List.append_nil _).symm
  | cons piece pieces ih =>
    intro start
    rw [List.foldl_cons, ih, List.flatMap_cons, ByteArray.data_append, Array.toList_append,
      List.append_assoc]

/-- What is printed for a summary is what is to be printed for it. -/
theorem Summary.data_summary (draw : Text.Table → String) (format : Format) (s : Summary) :
    (format.summary draw s).data.toList = s.printed draw format := by
  cases format with
  | json =>
    refine data_asLine ?_
    rw [toJson, render_object ⟨rfl⟩]
    repeat rw [ofList_memberChars ⟨rfl⟩]
    rw [render_ofString ⟨rfl⟩, render_array_encode, ofList_memberChars_nil]
    simp only [render_ofNat, toString_string, String.reduceAppend, String.append_assoc,
      append_append_of_eq (show ",\"delivered_commands\":" ++ "[" = ",\"delivered_commands\":["
        from rfl)]
  | table => rfl
  | pretty =>
    rw [Format.summary, data_concat, lines, List.map_cons, List.flatMap_cons, Summary.printed,
      List.map_map, List.flatMap_map]
    refine congrArg₂ (· ++ ·) (data_asLine ?_) (List.flatMap_congr fun c _ => data_asLine ?_)
    · simp only [toString_string, String.append_assoc]
    · simp only [encode_eq_hexText, toString_string, String.append_assoc]
  | raw => rfl

/-- Frames that show some events are printed as these events, with consecutive indices. -/
theorem data_events {events : List GivenEvent} {frames : List StandardFrame}
    (h : List.Forall₂ Shows events frames) (draw : Text.Table → String) (format : Format) :
    (concat (frames.zipIdx.map fun (frame, index) => format.event draw index frame)).data.toList =
      events.zipIdx.flatMap fun (event, index) => event.printed draw format index := by
  rw [data_concat, List.flatMap_map]
  generalize 0 = start
  induction h generalizing start with
  | nil => rfl
  | cons hshows _ ih =>
    rw [List.zipIdx_cons, List.zipIdx_cons, List.flatMap_cons, List.flatMap_cons, ih]
    exact congrArg (· ++ _) (hshows.printed draw format start)

/-- What is printed for the course of a simulation whose frames show some events. -/
theorem Course.data_print {events : List GivenEvent} {frames : List StandardFrame}
    (h : List.Forall₂ Shows events frames) (draw : Text.Table → String) (format : Format)
    (summary : Summary) (failure : Option Failure) :
    ((⟨frames, some summary, failure⟩ : Course).print draw format).data.toList =
      (events.zipIdx.flatMap fun (event, index) => event.printed draw format index) ++
        summary.printed draw format := by
  rw [Course.print, ByteArray.data_append, Array.toList_append, data_events h]
  exact congrArg (_ ++ ·) (summary.data_summary draw format)

end Simulation

end RadioLink
