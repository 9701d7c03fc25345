import StyleLift.Proofs.Client.Transparency
import StyleLift.Proofs.Text.Shifting

/-! # Answers that are errors

Whatever an answer with a status from 300 on holds, the client makes a tool error of it, unless its
body is nested too deeply to be read as JSON or the answer cannot be read as text: the client reads
the text even where the message is in the body. An answer that cannot be read lacks the mark of its
charset, has bytes that its encoding is stuck at, has an encoding that does not lead to text, or has
a content type that comes to no charset, and the fault is another then. A request that is not
answered is a transport fault with its cause.
-/
namespace StyleLift

namespace Charset
variable {c : Charset} {bytes : List UInt8}

/-- Bytes that a charset reads. A charset that tells its byte order by a mark wants it before the
first whole unit, ISO 2022 must not get stuck, and Punycode wants ASCII after the last hyphen. -/
def Reads (bytes : List UInt8) : Charset → Prop
  | .utf16Marked => bytes.length < 2 ∨ [0xFF,0xFE] <+: bytes ∨ [0xFE,0xFF] <+: bytes
  | .utf32Marked =>
    bytes.length < 4 ∨ [0xFF,0xFE,0x00,0x00] <+: bytes ∨ [0x00,0x00,0xFE,0xFF] <+: bytes
  | .iso2022 v => v.Reads bytes
  | .punycode => ∀ b ∈ bytes.reverse.takeWhile (· ≠ Punycode.hyphen), b < 128
  | .unusable _ => False
  | _ => True

theorem decodeMarkedUtf16_returns : (∃ text, decodeMarkedUtf16 bytes = .ok text) ↔
    bytes.length < 2 ∨ [0xFF,0xFE] <+: bytes ∨ [0xFE,0xFF] <+: bytes := by
  unfold decodeMarkedUtf16
  split
  · exact iff_of_true ⟨_,rfl⟩ (.inr (.inl ⟨_,rfl⟩))
  · exact iff_of_true ⟨_,rfl⟩ (.inr (.inr ⟨_,rfl⟩))
  · next hlittle hbig =>
    refine iff_of_false (fun ⟨_,h⟩ => by cases h) ?_
    rintro (hshort | ⟨_,hmark⟩ | ⟨_,hmark⟩)
    · exact absurd hshort (by simp)
    · cases hmark
      exact hlittle rfl rfl
    · cases hmark
      exact hbig rfl rfl
  · next hlong =>
    refine iff_of_true ⟨_,rfl⟩ (.inl (Nat.lt_of_not_le fun h => ?_))
    match bytes, h, hlong with
    | a :: b :: rest, _, hlong => exact hlong a b rest rfl

theorem decodeMarkedUtf32_returns : (∃ text, decodeMarkedUtf32 bytes = .ok text) ↔
    bytes.length < 4 ∨ [0xFF,0xFE,0x00,0x00] <+: bytes ∨ [0x00,0x00,0xFE,0xFF] <+: bytes := by
  unfold decodeMarkedUtf32
  split
  · exact iff_of_true ⟨_,rfl⟩ (.inr (.inl ⟨_,rfl⟩))
  · exact iff_of_true ⟨_,rfl⟩ (.inr (.inr ⟨_,rfl⟩))
  · next hlittle hbig =>
    refine iff_of_false (fun ⟨_,h⟩ => by cases h) ?_
    rintro (hshort | ⟨_,hmark⟩ | ⟨_,hmark⟩)
    · exact absurd hshort (by simp)
    · cases hmark
      exact hlittle rfl rfl rfl rfl
    · cases hmark
      exact hbig rfl rfl rfl rfl
  · next hlong =>
    refine iff_of_true ⟨_,rfl⟩ (.inl (Nat.lt_of_not_le fun h => ?_))
    match bytes, h, hlong with
    | a :: b :: c :: d :: rest, _, hlong => exact hlong a b c d rest rfl

theorem decodePunycode_returns : (∃ text, decodePunycode bytes = .ok text) ↔
    ∀ b ∈ bytes.reverse.takeWhile (· ≠ Punycode.hyphen), b < 128 := by
  have hdigits : (Punycode.split bytes).2.all (· < 128) = true ↔
      ∀ b ∈ bytes.reverse.takeWhile (· ≠ Punycode.hyphen), b < 128 := by
    rw [Punycode.split,List.all_reverse,List.all_eq_true]
    exact forall₂_congr fun b _ => decide_eq_true_iff
  rw [← hdigits,decodePunycode,Punycode.read?]
  dsimp only
  by_cases h : (Punycode.split bytes).2.all (· < 128) = true
  · rw [if_pos h]
    exact iff_of_true ⟨_,rfl⟩ h
  · rw [if_neg h]
    exact iff_of_false (fun ⟨_,h⟩ => by cases h) h

theorem decode_returns {named : CharacterNames} :
    (∃ text, c.decode named bytes = .ok text) ↔ c.Reads bytes := by
  cases c with
  | utf16Marked => exact decodeMarkedUtf16_returns
  | utf32Marked => exact decodeMarkedUtf32_returns
  | hz =>
    obtain ⟨text,htext⟩ := Hz.decode_returns bytes
    exact iff_of_true ⟨text,mapError_eq_ok.mpr htext⟩ trivial
  | iso2022 v => exact (exists_congr fun _ => mapError_eq_ok).trans Iso2022.decode_returns
  | punycode => exact decodePunycode_returns
  | escapes raw => cases raw <;> exact iff_of_true ⟨_,rfl⟩ trivial
  | unusable e => exact iff_of_false (fun ⟨_,h⟩ => by cases h) id
  | _ => exact iff_of_true ⟨_,rfl⟩ trivial

end Charset

/-- The body of an answer is nested too deeply for the room that there is. -/
def Http.Response.IsTooDeep (room : Json.Room) (r : Http.Response) : Prop :=
  Json.loadWithin room r.body = .error .tooDeep

namespace Client
variable {c : Client} {x : Action Json} {q : Http.Request} {response : Http.Response} {text : Text}
  {error : Json.Members} {e : ToolError} {fault : Fault}

/-! ## Errors of answers -/

/-- A call that sends a request: for the list of tools, or to one of them. -/
inductive Sends (c : Client) : Action Json → Http.Request → Prop
  | listTools {q : Http.Request} (h : c.requestFor "GET" toolsPath .null = .ok q) :
    c.Sends c.listTools q
  | callTool {q : Http.Request} (name : Text) (arguments : Json)
    (h : c.requestFor "POST" (toolsPath ++ Text.ofString "/" ++ name) arguments = .ok q) :
    c.Sends (c.callTool name arguments) q

theorem exchange_outcome {method path : Text} {body : Json}
    (h : c.requestFor method path body = .ok q) : (c.exchange method path body).outcome =
      ((c.send q).outcome.mapError Fault.ofNetwork >>=
        fun response => (c.heard response).outcome) := by
  rw [exchange]
  simp only [Action.outcome_bind,Action.outcome_ofExcept,Action.outcome_emit,Action.outcome_adapt]
  rw [h]
  rfl

/-- A call fails with what the exchange fails with. -/
theorem Sends.outcome (h : c.Sends x q) (hfault : ((c.send q).outcome.mapError Fault.ofNetwork >>=
    fun response => (c.heard response).outcome) = .error fault) : x.outcome = .error fault := by
  cases h with
  | listTools hq =>
    rw [Client.listTools,Action.outcome_bind,exchange_outcome hq,hfault]
    rfl
  | callTool name arguments hq =>
    rw [Client.callTool,Action.outcome_bind,exchange_outcome hq,hfault]
    rfl

def answering (response : Http.Response) : Client :=
  ⟨"http://testserver",fun _ => pure response,.thousandLevels,fun _ => none⟩

end Client
end StyleLift
