import DeviceLink.Proofs.Text.HexInput
import DeviceLink.Tool.Output

/-!
# Printed responses

A response is printed with the hexadecimal text of its bytes: alone on a line,
or between quotes in a record. Nothing in this text needs an escape, so what
stands there is read back as the bytes.
-/

namespace DeviceLink

namespace Json

/-- A text without characters to escape stands in quotes as it is. -/
theorem quoted_of_plain
    {text : String}
    (plain : ∀ c ∈ text.toList, escape c = [c]) :
    quoted text = "\"" ++ text ++ "\"" := by
  have same : text.toList.flatMap escape = text.toList := by
    generalize text.toList = chars at plain
    induction chars with
    | nil => rfl
    | cons c chars inductionHypothesis =>
        obtain ⟨first, rest⟩ := List.forall_mem_cons.1 plain
        rw [List.flatMap_cons, first, inductionHypothesis rest]
        rfl
  rw [quoted, same, String.ofList_toList]

theorem enclosed_cons
    (opening closing : String)
    (level : Nat)
    (line : String)
    (lines : List String) :
    enclosed opening closing level (line :: lines) =
      opening ++ ",".intercalate ((line :: lines).map fun line => newLine (level + 1) ++ line)
        ++ newLine level ++ closing := rfl

/-- Printed bytes stand in quotes as they are. -/
theorem quoted_spaced (bytes : List UInt8) :
    quoted (Hex.spaced bytes) = "\"" ++ Hex.spaced bytes ++ "\"" := by
  apply quoted_of_plain
  intro c among
  obtain rfl | ⟨value, rfl⟩ := Hex.mem_spaced among
  · rfl
  · clear among
    decide +revert

end Json

namespace Response

/-- The word for a truth value in a record. -/
def truthWord (value : Bool) : String :=
  if value then "true" else "false"

/-- The record of a response whose bytes are shown as `hex`. -/
def recordWith (hex : String) (response : Response) : String :=
  "\x7b\n  \"data\": \"" ++ hex ++ "\",\n  \"ok\": " ++ truthWord response.isSuccess
    ++ ",\n  \"read_ok\": " ++ truthWord response.readOk
    ++ ",\n  \"write_ok\": " ++ truthWord response.writeOk ++ "\n\x7d"

/-- The record of a response, as it is printed. -/
theorem text_printedJson (response : Response) :
    response.printedJson.text = response.recordWith (Hex.spaced response.bytes) := by
  have data := Json.quoted_spaced response.bytes
  have first : Json.quoted "data" = "\"data\"" := rfl
  have second : Json.quoted "ok" = "\"ok\"" := rfl
  have third : Json.quoted "read_ok" = "\"read_ok\"" := rfl
  have fourth : Json.quoted "write_ok" = "\"write_ok\"" := rfl
  have outer : Json.newLine 0 = "\n" := rfl
  have inner : Json.newLine (0 + 1) = "\n  " := rfl
  rw [printedJson, Json.text, Json.textAt, Json.fieldTexts, Json.fieldTexts, Json.fieldTexts,
    Json.fieldTexts, Json.fieldTexts, Json.enclosed_cons, first, second, third, fourth]
  simp only [List.map_cons, List.map_nil, String.intercalate_cons_cons,
    String.intercalate_singleton]
  have string : Json.textAt (0 + 1) (.string (Hex.spaced response.bytes)) =
      "\"" ++ Hex.spaced response.bytes ++ "\"" := data
  have bool (value : Bool) : Json.textAt (0 + 1) (.bool value) = truthWord value := rfl
  rw [outer, inner, string, bool, bool, bool]
  unfold recordWith
  rw [← String.toList_inj]
  simp only [String.toList_append]
  simp

/-- A printed response shows its bytes as `hex`, which is empty exactly when there are none and is
else read back as them. Without a record nothing is printed for no bytes. -/
structure Shows (json : Bool) (response : Response) (hex printed : String) : Prop where
  /-- The printed text is the bytes, or the record of the response with them. -/
  form : printed =
    if json then response.recordWith hex ++ "\n" else if hex = "" then "" else hex ++ "\n"
  /-- There is nothing to show exactly when there are no bytes. -/
  empty_iff : hex = "" ↔ response.bytes = []
  /-- The shown bytes are read back as the bytes of the response. -/
  readBack : response.bytes ≠ [] → Hex.readBytes hex = .ok response.bytes
  /-- So are they with the line break behind them. -/
  readLine : response.bytes ≠ [] → Hex.readBytes (hex ++ "\n") = .ok response.bytes

theorem shows_printed (json : Bool) (response : Response) :
    response.Shows json (Hex.spaced response.bytes) (response.printed json) := by
  have emptyIff := Hex.spaced_eq_empty_iff response.bytes
  refine ⟨?_, emptyIff, ?_, ?_⟩
  · cases json with
    | true => rw [printed, if_pos rfl, if_pos rfl, text_printedJson]
    | false =>
        rw [printed, if_neg Bool.false_ne_true, if_neg Bool.false_ne_true]
        simp only [emptyIff, List.isEmpty_iff]
  · intro filled
    have read := Hex.readBytes_spaced filled "" nofun
    rw [String.append_empty] at read
    exact read
  · intro filled
    refine Hex.readBytes_spaced filled "\n" ?_
    intro c among
    have newline : c = '\n' := by simpa using among
    rw [newline]
    decide

end Response

end DeviceLink
