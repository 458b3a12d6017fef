import EbusGateway.Reconstructor.Parser

/-! The two ends of eBUS byte stuffing: the raw symbols the mux sends for a logical byte of the gateway,
and the decoder of a passive tap on the raw wire. Of the tap's read loop only the bytes are here; a
transport reset or a failed read puts the decoder back to its initial state.
-/
namespace EbusGateway.PassiveTap
open List
open Reconstructor (symbolEscape)

structure Write where
  data : UInt8
  structural : Bool

def gatewaySendSymbols (write : Write) : List UInt8 :=
  if write.data = symbolSyn && write.structural then [symbolSyn]
  else if write.data = symbolEscape then [symbolEscape,0x00]
  else if write.data = symbolSyn then [symbolEscape,0x01]
  else [write.data]

structure Decoded where
  symbol : UInt8
  wasEscaped : Bool
deriving DecidableEq

structure InvalidEscape where
  raw : UInt8
deriving DecidableEq

structure EscapeDecoder where
  escape : Bool := false

def EscapeDecoder.push (decoder : EscapeDecoder) (raw : UInt8) : EscapeDecoder × Except InvalidEscape (Option Decoded) :=
  if decoder.escape then
    ({escape := false},
      if raw = 0x00 then .ok (some ⟨symbolEscape,true⟩)
      else if raw = 0x01 then .ok (some ⟨symbolSyn,true⟩)
      else .error ⟨raw⟩)
  else if raw = symbolEscape then ({escape := true},.ok none)
  else (decoder,.ok (some ⟨raw,false⟩))

inductive Record
  | symbol (decoded : Decoded)
  | decodeFault (err : InvalidEscape)
deriving DecidableEq

def record : Except InvalidEscape (Option Decoded) → List Record
  | .ok none => []
  | .ok (some decoded) => [.symbol decoded]
  | .error err => [.decodeFault err]

def readLoop (decoder : EscapeDecoder) : List UInt8 → EscapeDecoder × List Record
  | [] => (decoder,[])
  | raw :: rest =>
    let pushed := decoder.push raw
    let later := readLoop pushed.1 rest
    (later.1,record pushed.2 ++ later.2)

def encode (writes : List Write) : List UInt8 := writes.flatMap gatewaySendSymbols

def Write.seen (write : Write) : Decoded :=
  ⟨write.data,write.data = symbolEscape || write.data = symbolSyn && !write.structural⟩

def Decoded.written (decoded : Decoded) : Write := ⟨decoded.symbol,!decoded.wasEscaped⟩

theorem readLoop_sent (write : Write) (rest : List UInt8) :
    readLoop {} (gatewaySendSymbols write ++ rest) = ((readLoop {} rest).1,.symbol write.seen :: (readLoop {} rest).2) := by
  obtain ⟨data,structural⟩ := write
  by_cases syn : data = symbolSyn
  · subst syn
    cases structural <;> rfl
  by_cases lead : data = symbolEscape
  · subst lead
    rfl
  · have pushed : EscapeDecoder.push {} data = ({},.ok (some ⟨data,false⟩)) := by simp [EscapeDecoder.push,lead]
    simp [gatewaySendSymbols,Write.seen,readLoop,pushed,record,syn,lead]

theorem readLoop_encoded (writes : List Write) : readLoop {} (encode writes) = ({},writes.map (.symbol ·.seen)) := by
  induction writes with
  | nil => rfl
  | cons write rest ih =>
    rw [encode,flatMap_cons,readLoop_sent]
    change ((readLoop {} (encode rest)).1,Record.symbol write.seen :: (readLoop {} (encode rest)).2) = _
    rw [ih,map_cons]

/-- How a raw stream starts: it is at its end, at a lone lead, at a pair that is no escape sequence, or
at the symbols of one logical byte, which the loop records as they were written. -/
theorem raw_cases (raws : List UInt8) : raws = [] ∨ raws = [symbolEscape] ∨
      (∃ raw rest, raws = symbolEscape :: raw :: rest ∧ raw ≠ 0x00 ∧ raw ≠ 0x01) ∨
      ∃ decoded rest, raws = gatewaySendSymbols (Decoded.written decoded) ++ rest ∧
        decoded.written.seen = decoded ∧ rest.length < raws.length := by
  match raws with
  | [] => exact .inl rfl
  | raw :: rest =>
    by_cases lead : raw = symbolEscape
    · subst lead
      match rest with
      | [] => exact .inr (.inl rfl)
      | second :: rest =>
        by_cases escape : second = 0x00
        · exact .inr (.inr (.inr ⟨⟨symbolEscape,true⟩,rest,escape ▸ rfl,rfl,Nat.lt_succ_of_lt (Nat.lt_succ_self _)⟩))
        by_cases syn : second = 0x01
        · exact .inr (.inr (.inr ⟨⟨symbolSyn,true⟩,rest,syn ▸ rfl,rfl,Nat.lt_succ_of_lt (Nat.lt_succ_self _)⟩))
        · exact .inr (.inr (.inl ⟨second,rest,rfl,escape,syn⟩))
    · refine .inr (.inr (.inr ⟨⟨raw,false⟩,rest,?_,?_,by simp⟩))
      · by_cases syn : raw = symbolSyn <;> simp [gatewaySendSymbols,Decoded.written,lead,syn]
      · simp [Decoded.written,Write.seen,lead]

def Reencodes (raws : List UInt8) : Prop :=
  ∃ decoded : List Decoded,
    (readLoop {} raws).2 = decoded.map .symbol ∧
        raws = encode (decoded.map (·.written)) ++ (if (readLoop {} raws).1.escape then [symbolEscape] else []) ∨
      ∃ raw rest, raws = encode (decoded.map (·.written)) ++ symbolEscape :: raw :: rest ∧ raw ≠ 0x00 ∧ raw ≠ 0x01 ∧
        readLoop {} raws = ((readLoop {} rest).1,decoded.map .symbol ++ .decodeFault ⟨raw⟩ :: (readLoop {} rest).2)

theorem reencodes (raws : List UInt8) : Reencodes raws := by
  obtain rfl | rfl | ⟨raw,rest,rfl,escape,syn⟩ | ⟨first,rest,rfl,seen,shorter⟩ := raw_cases raws
  · exact ⟨[],.inl ⟨rfl,rfl⟩⟩
  · exact ⟨[],.inl ⟨rfl,rfl⟩⟩
  · refine ⟨[],.inr ⟨raw,rest,rfl,escape,syn,?_⟩⟩
    simp [readLoop,EscapeDecoder.push,record,escape,syn]
  · obtain ⟨decoded,⟨recorded,same⟩ | ⟨raw,later,same,escape,syn,recorded⟩⟩ := reencodes rest
    · refine ⟨first :: decoded,.inl ⟨?_,?_⟩⟩
      · rw [readLoop_sent,seen,recorded,map_cons]
      · rw [readLoop_sent,map_cons,encode,flatMap_cons,append_assoc]
        exact congrArg _ same
    · refine ⟨first :: decoded,.inr ⟨raw,later,?_,escape,syn,?_⟩⟩
      · rw [map_cons,encode,flatMap_cons,append_assoc]
        exact congrArg _ same
      · rw [readLoop_sent,seen,recorded,map_cons,cons_append]
termination_by raws.length

/-- The tap's decoder inverts the gateway's encoding, and the encoding the decoder up to its first fault. -/
theorem decoding_inverts_encoding :
    (∀ writes, readLoop {} (encode writes) = ({},writes.map (.symbol ·.seen))) ∧ ∀ raws, Reencodes raws :=
  ⟨readLoop_encoded,reencodes⟩

/-- An escape lead is escaped even where it is marked structural. -/
theorem structural_escape_is_escaped :
    (readLoop {} (encode [⟨symbolEscape,true⟩])).2 = [.symbol ⟨symbolEscape,true⟩] ∧
      ¬ ∀ write : Write, (readLoop {} (encode [write])).2 =
        [.symbol ⟨write.data,!write.structural && (write.data = symbolEscape || write.data = symbolSyn)⟩] :=
  ⟨by decide,fun all => absurd (all ⟨symbolEscape,true⟩) (by decide)⟩

end EbusGateway.PassiveTap
