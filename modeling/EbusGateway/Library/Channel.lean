import Mathlib.Data.List.Basic

/-! Buffered channels: a first-in first-out queue that carries the proof that its capacity is
respected. A send that would overflow and a receive from an empty buffer return `none`.
-/
namespace EbusGateway.Library

structure Channel (α : Type) (capacity : Nat) where
  buffer : List α
  bounded : buffer.length ≤ capacity

namespace Channel
variable {α : Type} {capacity : Nat}

def empty : Channel α capacity := ⟨[],Nat.zero_le _⟩

variable (channel : Channel α capacity) {next : Channel α capacity}

def send (value : α) : Option (Channel α capacity) :=
  if room : channel.buffer.length < capacity then
    some ⟨channel.buffer ++ [value],by simpa using Nat.succ_le_of_lt room⟩ else none

def receive : Channel α capacity → Option (α × Channel α capacity)
  | ⟨[],_⟩ => none
  | ⟨value :: rest,bounded⟩ => some (value,⟨rest,Nat.le_of_succ_le bounded⟩)

def isFull : Bool := channel.buffer.length == capacity

@[simp] theorem empty_buffer : (empty : Channel α capacity).buffer = [] := rfl

theorem send_buffer {channel : Channel α capacity} {value : α}
    (sent : channel.send value = some next) : next.buffer = channel.buffer ++ [value] := by
  simp only [send] at sent
  split at sent
  · cases sent
    rfl
  · cases sent

theorem send_isSome_of_length (value : α) (room : channel.buffer.length < capacity) :
    ∃ next, channel.send value = some next ∧ next.buffer = channel.buffer ++ [value] :=
  ⟨_,dif_pos room,rfl⟩

theorem isFull_iff : channel.isFull = true ↔ channel.buffer.length = capacity := by
  simp [isFull]

theorem receive_buffer {channel : Channel α capacity} {value : α}
    (received : channel.receive = some (value,next)) : channel.buffer = value :: next.buffer := by
  obtain ⟨buffer,bounded⟩ := channel
  cases buffer with
  | nil => cases received
  | cons first rest =>
    cases received
    rfl

theorem receive_of_buffer (value : α) (rest : List α) (contents : channel.buffer = value :: rest) :
    ∃ next, channel.receive = some (value,next) ∧ next.buffer = rest := by
  obtain ⟨buffer,bounded⟩ := channel
  cases contents
  exact ⟨_,rfl,rfl⟩

theorem receive_none_buffer {channel : Channel α capacity} (drained : channel.receive = none) : channel.buffer = [] := by
  obtain ⟨buffer,bounded⟩ := channel
  cases buffer with
  | nil => rfl
  | cons first rest => cases drained

end Channel

structure Mailbox (α : Type) (capacity : Nat) where
  channel : Channel α capacity
  waiting : List α
  saturated : waiting ≠ [] → channel.buffer.length = capacity

namespace Mailbox
variable {α : Type} {capacity : Nat}

def empty : Mailbox α capacity := ⟨.empty,[],fun waits => absurd rfl waits⟩

variable (mailbox : Mailbox α capacity) (value : α) {next : Mailbox α capacity}

def contents : List α := mailbox.channel.buffer ++ mailbox.waiting

def trySend : Option (Mailbox α capacity) :=
  if room : mailbox.channel.buffer.length < capacity then
    some ⟨⟨mailbox.channel.buffer ++ [value],by simpa using Nat.succ_le_of_lt room⟩,mailbox.waiting,
      fun waits => absurd (mailbox.saturated waits) (Nat.ne_of_lt room)⟩ else none

def send : Mailbox α capacity :=
  if room : mailbox.channel.buffer.length < capacity then
    ⟨⟨mailbox.channel.buffer ++ [value],by simpa using Nat.succ_le_of_lt room⟩,mailbox.waiting,
      fun waits => absurd (mailbox.saturated waits) (Nat.ne_of_lt room)⟩
  else ⟨mailbox.channel,mailbox.waiting ++ [value],fun _ => Nat.le_antisymm mailbox.channel.bounded (Nat.le_of_not_lt room)⟩

def receive : Mailbox α capacity → Option (α × Mailbox α capacity)
  | ⟨⟨[],_⟩,_,_⟩ => none
  | ⟨⟨value :: rest,bounded⟩,[],_⟩ => some (value,⟨⟨rest,Nat.le_of_succ_le bounded⟩,[],fun waits => absurd rfl waits⟩)
  | ⟨⟨value :: rest,bounded⟩,next :: later,saturated⟩ =>
    some (value,⟨⟨rest ++ [next],by simpa using bounded⟩,later,fun _ => by simpa using saturated (by simp)⟩)

def withdraw (index : Nat) : Mailbox α capacity :=
  ⟨mailbox.channel,mailbox.waiting.eraseIdx index,fun waits => mailbox.saturated fun none => waits (by simp [none])⟩

@[simp] theorem empty_contents : (empty : Mailbox α capacity).contents = [] := rfl

theorem trySend_contents {mailbox : Mailbox α capacity} {value : α}
    (sent : mailbox.trySend value = some next) : next.contents = mailbox.contents ++ [value] := by
  simp only [trySend] at sent
  split at sent
  · rename_i room
    cases sent
    have none : mailbox.waiting = [] := by
      by_contra waits
      exact absurd (mailbox.saturated waits) (Nat.ne_of_lt room)
    simp [contents,none]
  · cases sent

theorem send_contents : (mailbox.send value).contents = mailbox.contents ++ [value] := by
  by_cases room : mailbox.channel.buffer.length < capacity
  · have none : mailbox.waiting = [] := by
      by_contra waits
      exact absurd (mailbox.saturated waits) (Nat.ne_of_lt room)
    simp [contents,send,room,none]
  · simp [contents,send,room]

theorem receive_contents {mailbox : Mailbox α capacity} {value : α}
    (received : mailbox.receive = some (value,next)) : mailbox.contents = value :: next.contents := by
  obtain ⟨⟨buffer,bounded⟩,waiting,saturated⟩ := mailbox
  cases buffer with
  | nil => cases received
  | cons first rest =>
    cases waiting with
    | nil | cons =>
      cases received
      simp [contents]

/-- A receive takes one value out of the buffer, and the buffer never shrinks otherwise. -/
theorem receive_length {mailbox : Mailbox α capacity} {value : α} (received : mailbox.receive = some (value,next)) :
    mailbox.channel.buffer.length ≤ next.channel.buffer.length + 1 := by
  obtain ⟨⟨buffer,bounded⟩,waiting,saturated⟩ := mailbox
  cases buffer with
  | nil => cases received
  | cons first rest =>
    cases waiting with
    | nil =>
      cases received
      simp
    | cons sender later =>
      cases received
      simp

theorem trySend_length {mailbox : Mailbox α capacity} {value : α} (sent : mailbox.trySend value = some next) :
    mailbox.channel.buffer.length ≤ next.channel.buffer.length := by
  simp only [trySend] at sent
  split at sent
  · cases sent
    simp
  · cases sent

theorem send_length : mailbox.channel.buffer.length ≤ (mailbox.send value).channel.buffer.length := by
  by_cases room : mailbox.channel.buffer.length < capacity <;> simp [send,room]

end Mailbox
end EbusGateway.Library
