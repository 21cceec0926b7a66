import Shdlc.Session
import Shdlc.Proofs.Station
/-!
What happens to a device when something is done at it in a session. Main statement: `work_becomes`,
an operation at a device changes what is remembered of it by its occurrences and by nothing else.
-/
namespace Shdlc

namespace Session.DeviceOperation

def inquiry? : DeviceOperation → Option Inquiry
  | .execute inquiry _ => some inquiry
  | .productTypeNumber => some (.standard .getProductType)
  | .describedErrorState clear => some (.standard (.getErrorState clear))
  | .setAddress address _ => some (.standard (.setSlaveAddress address))
  | .setBaudrate baudrate _ => some (.standard (.setBaudrate baudrate))
  | .reset => some (.standard .deviceReset)
  | .factoryReset => some (.standard .factoryReset)
  | .register _ | .lookUp _ => none

/-- What happens besides, once the command is answered. -/
def sequel : DeviceOperation → List Device.Occurrence
  | .setAddress address true => [.moved address]
  | .reset | .factoryReset => [.reset]
  | .register errors => [.registered errors]
  | _ => []

/-- What happens at the device with an address when the operation is performed. -/
def occurrences (o : DeviceOperation) (address : UInt8) (b : Bus) : List Device.Occurrence :=
  match o.inquiry? with
  | some inquiry => Station.occurrencesOf (b.answer? address inquiry.command) o.sequel
  | none => o.sequel

theorem work_becomes (o : DeviceOperation) (s : Station) :
    s.Becomes (o.occurrences s.device.address s.bus) (Work.final (o.work s)) := by
  cases o with
  | execute inquiry wait =>
    rw [work, Work.final_map]
    obtain ⟨r, a, t, ha, he, ht⟩ | ⟨e, t, ha, he, ht⟩ :=
      Station.execute_becomes inquiry.command wait s
    · simpa only [occurrences, inquiry?, sequel, Station.occurrencesOf, ha, he, Work.final] using ht
    · simpa only [occurrences, inquiry?, sequel, Station.occurrencesOf, ha, he, Work.final] using ht
  | productTypeNumber =>
    rw [work, Work.final_map]
    exact Station.productTypeNumber_becomes s
  | describedErrorState clear =>
    rw [work, Work.final_map]
    exact @Station.ask_bind_becomes (UInt32 × Option DeviceError) (.getErrorState clear) _ []
      (fun _ _ => rfl) (fun _ _ => rfl) s
  | setAddress address follow =>
    rw [work, Work.final_map]
    cases follow with
    | true =>
      exact @Station.ask_bind_becomes Unit (.setSlaveAddress address) _ [.moved address]
        (fun _ _ => rfl) (fun _ _ => rfl) s
    | false =>
      exact @Station.ask_bind_becomes Unit (.setSlaveAddress address) _ []
        (fun _ _ => rfl) (fun _ _ => rfl) s
  | setBaudrate baudrate follow =>
    rw [work, Work.final_map]
    cases follow with
    | true =>
      exact @Station.ask_bind_becomes Unit (.setBaudrate baudrate) _ []
        (fun _ t => Station.keeps_device_onBus _ t)
        (fun _ => Station.keeps_requests_onBus (Bus.keeps_requests_setBitrate baudrate)) s
    | false =>
      exact @Station.ask_bind_becomes Unit (.setBaudrate baudrate) _ []
        (fun _ _ => rfl) (fun _ _ => rfl) s
  | reset =>
    rw [work, Work.final_map]
    exact @Station.ask_bind_becomes Unit .deviceReset _ [.reset] (fun _ _ => rfl) (fun _ _ => rfl) s
  | factoryReset =>
    rw [work, Work.final_map]
    exact @Station.ask_bind_becomes Unit .factoryReset _ [.reset] (fun _ _ => rfl)
      (fun _ _ => rfl) s
  | register errors =>
    rw [work, Work.final_map]
    exact ⟨rfl, .refl s.bus⟩
  | lookUp code => exact .refl s

end Session.DeviceOperation

end Shdlc
