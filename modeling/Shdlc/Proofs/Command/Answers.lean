import Shdlc.Command.Standard
/-!
What is wrong with an answer that is not understood. Main statement: no given command finds fault
with anything but the data of an answer.
-/
namespace Shdlc

namespace Answer

variable {α : Type}

/-- A way of reading answers that finds fault with nothing but the answer. -/
def BlamesData (interpret : Bytes → Except Error α) : Prop :=
  ∀ data e, interpret data = .error e → ∃ flaw, e = .response flaw (some data)

theorem blamesData_nothing : BlamesData nothing := by
  intro data e h
  cases h

theorem blamesData_byte : BlamesData byte := by
  intro data e h
  unfold byte at h
  split at h <;> cases h
  exact ⟨_, rfl⟩

theorem blamesData_word16 : BlamesData word16 := by
  intro data e h
  unfold word16 at h
  split at h <;> cases h
  exact ⟨_, rfl⟩

theorem blamesData_word32 : BlamesData word32 := by
  intro data e h
  unfold word32 at h
  split at h <;> cases h
  exact ⟨_, rfl⟩

theorem blamesData_text : BlamesData text := by
  intro data e h
  unfold text at h
  split at h <;> cases h
  exact ⟨_, rfl⟩

theorem blamesData_version : BlamesData version := by
  intro data e h
  unfold version at h
  split at h <;> cases h
  exact ⟨_, rfl⟩

theorem blamesData_errorState : BlamesData errorState := by
  intro data e h
  unfold errorState at h
  split at h <;> cases h
  exact ⟨_, rfl⟩

end Answer

theorem Standard.blamesData (s : Standard) : Answer.BlamesData s.command.interpret := by
  cases s with
  | getSlaveAddress | getProductSubtype => exact Answer.blamesData_byte
  | getReplyDelay => exact Answer.blamesData_word16
  | getBaudrate | getSystemUpTime => exact Answer.blamesData_word32
  | getProductType | getProductName | getArticleCode | getSerialNumber =>
    exact Answer.blamesData_text
  | getVersion => exact Answer.blamesData_version
  | getErrorState clear => exact Answer.blamesData_errorState
  | setSlaveAddress | setBaudrate | setReplyDelay | factoryReset | deviceReset | enterBootloader
  | updateStart | updateData | updateStop => exact Answer.blamesData_nothing

/-- The commands that there are: the standard ones, and any others whose answers are handed on as
they are. -/
inductive Command.Given : {α : Type} → Command α → Prop where
  | standard (s : Standard) : Given s.command
  | raw (id : UInt8) (payload : Bytes) (timeout least most settling : Nat) :
    Given { Command.raw id payload timeout with least, most, settling }

theorem Command.Given.blamesData {α : Type} {c : Command α} (h : c.Given) :
    Answer.BlamesData c.interpret := by
  cases h with
  | standard s => exact s.blamesData
  | raw id payload timeout least most settling =>
    intro data e he
    cases he

end Shdlc
