import NodeLink.Async.Receiver
import NodeLink.ConfigurationChannel.Consumer
import NodeLink.Logbook.Consumer
import NodeLink.ProcessData.Consumer
import NodeLink.Proofs.Bounds.Reading
import NodeLink.Proofs.Timer.Shared
import NodeLink.Ssdo.Inbound
import NodeLink.Ssdo.Outbound

/-! The consumers with every range checked. Each has a space of its own that its messages are read into,
and goes back to the payload there when it needs it; the outbound service channel does so also in later
calls, for the frame that it holds. -/
namespace NodeLink

open Channel (Message maxMessage)
open Channel.Receiver (pollChecked pollChecked_agrees acknowledge_agrees)

variable {d : Descriptor} {space : Bytes}

namespace Status

def refreshChecked : Checked Medium End Bool := do
  .setSpace (Bytes.zeros recordSize)
  let snapshot ← .part (·.buffer) (fun buffer side => { side with buffer }) TripleBuffer.readChecked
  if snapshot.fresh then
    let record ← .ofDecoder (Record.decode? (← .inside (Bytes.part? (← .space) 0 snapshot.size)))
    .lift (Action.modify fun side => { side with record })
    return true
  else return false

theorem refreshChecked_agrees {side : End} :
    refreshChecked.Agrees Medium.Sound refresh side space (fun fresh found _ _ => fresh = found)
      fun _ _ => True := by
  apply Checked.Agrees.setSpace_then
  apply Checked.Agrees.bind (fun snapshot found left after => found.1 = snapshot ∧
    TripleBuffer.Landed side.buffer.slotSize recordSize snapshot found.2 after)
  · apply Checked.Agrees.part
    have stays : side.buffer.Stays side.buffer.region recordSize (Bytes.zeros recordSize) :=
      ⟨rfl, List.length_replicate⟩
    exact (TripleBuffer.readChecked_agrees stays).mono
      (fun _ _ _ _ holds => holds.2) fun _ _ _ => trivial
  · rintro _ ⟨snapshot, bytes⟩ left after ⟨rfl, landed⟩
    refine .ite (fun _ => ?_) fun _ => .done rfl
    have fits : snapshot.size ≤ after.length := landed.whole ▸ landed.fits
    apply Checked.Agrees.space_then
    apply Checked.Agrees.inside_then (Bytes.part?_zero fits)
    rw [← landed.moved]
    refine .ofDecoder_then (Record.decode?_gives bytes) (fun record => ?_) trivial
    exact .modify_then (.done rfl)

end Status

namespace ProcessData

/-- Put bytes into the image, if there are as many. -/
def Image.put? (image : Image) (offset : Nat) (bytes : Bytes) : Option Image :=
  if offset + bytes.length ≤ image.size then some (image.put offset bytes) else none

namespace Consumer

/-- The image is read into the first bytes of the space, and copied from there. -/
def refreshChecked : Checked Medium Consumer Bool := do
  let snapshot ← .front (← .lift Action.get).image.size
    (.part (·.buffer) (fun buffer consumer => { consumer with buffer }) TripleBuffer.readChecked)
  if snapshot.fresh then
    let bytes ← .inside (Bytes.part? (← .space) 0 snapshot.size)
    let image ← .inside ((← .lift Action.get).image.put? 0 bytes)
    .lift (Action.modify fun consumer => { consumer with image })
  return snapshot.fresh

/-- The image of an end fits into the space. -/
structure Fits (consumer : Consumer) (space : Bytes) : Prop where
  space : space.length = maxImage
  image : consumer.image.size ≤ maxImage

variable {consumer : Consumer}

theorem refreshChecked_agrees (fits : consumer.Fits space) :
    refreshChecked.Agrees Medium.Sound refresh consumer space
      (fun fresh found left after => fresh = found ∧ left.Fits after) Fits := by
  have small : consumer.image.size ≤ space.length := fits.space ▸ fits.image
  have part : (space.take consumer.image.size).length = consumer.image.size := by
    rw [List.length_take, Nat.min_eq_left small]
  have joined {front : Bytes} (whole : front.length = consumer.image.size) :
      (front ++ space.drop consumer.image.size).length = maxImage := by
    rw [List.length_append, List.length_drop, whole, Nat.add_sub_cancel' small, fits.space]
  apply Checked.Agrees.get_then
  apply Checked.Agrees.bind (fun snapshot found left after => found.1 = snapshot ∧
    left.image = consumer.image ∧ after.length = maxImage ∧ snapshot.size ≤ consumer.image.size ∧
    found.2 = after.take snapshot.size)
  · apply Checked.Agrees.front small
    apply Checked.Agrees.part
    have stays : consumer.buffer.Stays consumer.buffer.region consumer.image.size
        (space.take consumer.image.size) := ⟨rfl, part⟩
    apply (TripleBuffer.readChecked_agrees stays).mono
    · rintro _ ⟨snapshot, bytes⟩ left front ⟨_, rfl, whole, -, within, moved⟩
      refine ⟨rfl, rfl, joined whole, within, ?_⟩
      rw [List.take_append_of_le_length (by omega)]
      exact moved
    · rintro left front ⟨_, whole⟩
      exact ⟨joined whole, fits.image⟩
  · rintro _ ⟨snapshot, bytes⟩ left after ⟨rfl, same, whole, within, moved⟩
    dsimp only at within moved ⊢
    have image : left.image.size ≤ maxImage := same ▸ fits.image
    have taken : snapshot.size ≤ after.length := whole ▸ Nat.le_trans within fits.image
    have length : bytes.length = snapshot.size := by rw [moved, List.length_take, Nat.min_eq_left taken]
    have put : left.image.put? 0 bytes = some (left.image.put 0 bytes) :=
      if_pos (by rw [same, length]; omega)
    apply Checked.Agrees.ite
    · intro _
      apply Checked.Agrees.space_then
      apply Checked.Agrees.inside_then (Bytes.part?_zero taken)
      rw [← moved]
      apply Checked.Agrees.look_then
      apply Checked.Agrees.inside_then put
      refine .modify_then (.done ⟨rfl, whole, ?_⟩)
      exact Nat.le_trans (Nat.le_of_eq (Bytes.length_overlay _ _ _)) image
    · exact fun _ => .done ⟨rfl, whole, image⟩

end Consumer

end ProcessData

namespace ConfigurationChannel.Consumer

def onReceiverChecked {α : Type} (checked : Checked Medium Channel.Receiver α) :
    Checked Host Consumer α :=
  .part (·.receiver) (fun receiver consumer => { consumer with receiver }) checked.onHost

def processChecked : Checked Host Consumer (Option ObjectWrite) := do
  match ← onReceiverChecked pollChecked with
  | none => return none
  | some (message, _) =>
    onReceiverChecked (.lift (Channel.Receiver.acknowledge message))
    if message.duplicate then return none
    else
      let payload ← .inside (message.header.payload? (← .space))
      some <$> .lift (apply (← .ofDecoder (ObjectWrite.decode? payload)))

theorem apply_asks (write : ObjectWrite) :
    (apply write).AsksFrom (·.receiver.buffer.region = d) fun _ => True := by
  refine .get_then fun consumer _ => .ite (.bind (fun _ region => ⟨trivial, fun _ _ _ => region⟩)
    fun answer => ?_) (.fail _)
  cases answer with
  | error code => exact .fail _
  | ok taken => exact .done _

theorem processChecked_agrees {consumer : Consumer} (stays : consumer.receiver.Stays d maxMessage space) :
    processChecked.Agrees Host.Sound process consumer space
      (fun write found left after => write = found ∧ left.receiver.Stays d maxMessage after)
      fun left after => left.receiver.Stays d maxMessage after := by
  refine .part_then (pollChecked_agrees stays) ?_ fun _ _ stays => stays
  rintro _ _ receiver after ⟨region, polled⟩
  cases polled with
  | nothing whole => exact .done ⟨rfl, region, whole⟩
  | message whole fits inside within there =>
    refine .part_then (acknowledge_agrees _ ⟨region, whole⟩) ?_ fun _ _ ended => ended.1
    rintro _ _ receiver _ ⟨stays, rfl⟩
    refine .ite (fun _ => .done ⟨rfl, stays⟩) fun _ => ?_
    apply Checked.Agrees.space_then
    apply Checked.Agrees.inside_then there
    refine .ofDecoder_then (ObjectWrite.decode?_gives _) (fun write => .map ?_) stays
    exact .lift (apply_asks write) stays.1 (fun _ _ region => ⟨rfl, region, stays.2⟩)
      fun _ region => ⟨region, stays.2⟩

end ConfigurationChannel.Consumer

namespace Ssdo.Inbound.Consumer

def onReceiverChecked {α : Type} (checked : Checked Medium Channel.Receiver α) :
    Checked Host Consumer α :=
  .part (·.receiver) (fun receiver consumer => { consumer with receiver }) checked.onHost

def processChecked : Checked Host Consumer Bool := do
  match ← onReceiverChecked pollChecked with
  | none => return false
  | some (message, _) =>
    if !message.duplicate then
      let payload ← .inside (message.header.payload? (← .space))
      .lift (Action.ask (Host.deliver message.header.channel payload))
    onReceiverChecked (.lift (Channel.Receiver.acknowledge message))
    return !message.duplicate

theorem processChecked_agrees {consumer : Consumer} (stays : consumer.receiver.Stays d maxMessage space) :
    processChecked.Agrees Host.Sound process consumer space
      (fun delivered found left after => delivered = found ∧ left.receiver.Stays d maxMessage after)
      fun left after => left.receiver.Stays d maxMessage after := by
  refine .part_then (pollChecked_agrees stays) ?_ fun _ _ stays => stays
  rintro _ _ receiver after ⟨region, polled⟩
  cases polled with
  | nothing whole => exact .done ⟨rfl, region, whole⟩
  | @message message _ _ whole fits inside within there =>
    have acknowledged : Checked.Agrees Host.Sound
        (do onReceiverChecked (.lift (Channel.Receiver.acknowledge message)); return !message.duplicate)
        (do onReceiver (Channel.Receiver.acknowledge message); return !message.duplicate)
        { consumer with receiver } after
        (fun delivered found left after => delivered = found ∧ left.receiver.Stays d maxMessage after)
        fun left after => left.receiver.Stays d maxMessage after := by
      refine .part_then (acknowledge_agrees _ ⟨region, whole⟩) ?_ fun _ _ ended => ended.1
      rintro _ _ receiver _ ⟨stays, rfl⟩
      exact .done ⟨rfl, stays⟩
    refine .ite (fun _ => ?_) fun _ => acknowledged
    apply Checked.Agrees.space_then
    apply Checked.Agrees.inside_then there
    exact .ask_then fun _ => acknowledged

end Ssdo.Inbound.Consumer

namespace Logbook.Consumer

def onReceiverChecked {α : Type} (checked : Checked Medium Channel.Receiver α) :
    Checked Host Consumer α := .part (·.receiver) (fun receiver _ => ⟨receiver⟩) checked.onHost

def processChecked : Checked Host Consumer Bool := do
  match ← onReceiverChecked pollChecked with
  | none => return false
  | some (message, _) =>
    onReceiverChecked (.lift (Channel.Receiver.acknowledge message))
    if message.duplicate then return false
    else
      let payload ← .inside (message.header.payload? (← .space))
      let entry ← .ofDecoder (Entry.decode? payload)
      .lift (Action.ask (Host.record entry))
      return true

theorem processChecked_agrees {consumer : Consumer} (stays : consumer.receiver.Stays d maxMessage space) :
    processChecked.Agrees Host.Sound process consumer space
      (fun handed found left after => handed = found ∧ left.receiver.Stays d maxMessage after)
      fun left after => left.receiver.Stays d maxMessage after := by
  refine .part_then (pollChecked_agrees stays) ?_ fun _ _ stays => stays
  rintro _ _ receiver after ⟨region, polled⟩
  cases polled with
  | nothing whole => exact .done ⟨rfl, region, whole⟩
  | message whole fits inside within there =>
    refine .part_then (acknowledge_agrees _ ⟨region, whole⟩) ?_ fun _ _ ended => ended.1
    rintro _ _ receiver _ ⟨stays, rfl⟩
    refine .ite (fun _ => .done ⟨rfl, stays⟩) fun _ => ?_
    apply Checked.Agrees.space_then
    apply Checked.Agrees.inside_then there
    refine .ofDecoder_then (Entry.decode?_gives _) (fun entry => ?_) stays
    exact .ask_then fun _ => .done ⟨rfl, stays⟩

end Logbook.Consumer

namespace Async.Receiver

variable [Checksums]

def onReceiverChecked {α : Type} (checked : Checked Medium Channel.Receiver α) :
    Checked Host Receiver α :=
  .part (·.receiver) (fun inner receiver => { receiver with receiver := inner }) checked.onHost

def frameOf? (message : Message) (payload : Bytes) : Decoder Safety.Frame := do
  let frame ← Safety.Frame.ofMessage? payload
  if frame.format.toByte = message.header.format then return frame else .refuse .malformed

theorem frameOf?_gives (message : Message) : (frameOf? message message.payload).Gives (frameOf message) :=
  .bind (Safety.Frame.ofMessage?_gives _) fun _ _ => .ite (fun _ => .done _) fun _ => .refuse _

def dispatchChecked (message : Message) : Checked Host Receiver Unit := do
  let channel := message.header.channel
  if channel ∈ (← .lift Action.get).channels then
    if ← .lift (Action.ask (Host.serves channel)) then
      let frame ← .ofDecoder (frameOf? message (← .inside (message.header.payload? (← .space))))
      .lift (Action.ask (Host.deliverFrame channel frame))
    else .lift (Action.fail (.error (.unknownChannel channel)))
  else .lift (Action.fail (.error (.unknownChannel channel)))

def processChecked : Checked Host Receiver Bool := do
  match ← onReceiverChecked pollChecked with
  | none => return false
  | some (message, _) =>
    if message.duplicate then
      onReceiverChecked (.lift (Channel.Receiver.acknowledge message))
      return false
    else
      let result ← .outcome (dispatchChecked message)
      onReceiverChecked (.lift (Channel.Receiver.acknowledge message))
      match result with
      | .error fault => .lift (Action.fail fault)
      | .ok () => return true

variable {receiver : Receiver}

theorem dispatchChecked_agrees {message : Message} (stays : receiver.receiver.Stays d maxMessage space)
    (there : message.header.payload? space = some message.payload) :
    (dispatchChecked message).Agrees Host.Sound (dispatch message) receiver space
      (fun _ _ left after => left.receiver.Stays d maxMessage after)
      fun left after => left.receiver.Stays d maxMessage after := by
  apply Checked.Agrees.get_then
  refine .ite (fun _ => .ask_then fun serves => .ite (fun _ => ?_) fun _ => .fail stays) fun _ => .fail stays
  apply Checked.Agrees.space_then
  apply Checked.Agrees.inside_then there
  refine .ofDecoder_then (frameOf?_gives message) (fun frame => ?_) stays
  exact .ask fun _ => stays

theorem processChecked_agrees (stays : receiver.receiver.Stays d maxMessage space) :
    processChecked.Agrees Host.Sound process receiver space
      (fun handled found left after => handled = found ∧ left.receiver.Stays d maxMessage after)
      fun left after => left.receiver.Stays d maxMessage after := by
  refine .part_then (pollChecked_agrees stays) ?_ fun _ _ stays => stays
  rintro _ _ inner after ⟨region, polled⟩
  cases polled with
  | nothing whole => exact .done ⟨rfl, region, whole⟩
  | message whole fits inside within there =>
    apply Checked.Agrees.ite
    · intro _
      refine .part_then (acknowledge_agrees _ ⟨region, whole⟩) ?_ fun _ _ ended => ended.1
      rintro _ _ inner _ ⟨stays, rfl⟩
      exact .done ⟨rfl, stays⟩
    · intro _
      apply Checked.Agrees.bind (fun result found left after => result = found ∧
        left.receiver.Stays d maxMessage after)
      · apply Checked.Agrees.outcome
        exact (dispatchChecked_agrees ⟨region, whole⟩ there).mono (fun _ _ _ _ stays => ⟨rfl, stays⟩)
          fun _ _ stays _ => ⟨rfl, stays⟩
      · rintro result _ left after ⟨rfl, stays⟩
        refine .part_then (acknowledge_agrees _ stays) ?_ fun _ _ ended => ended.1
        rintro _ _ inner _ ⟨kept, rfl⟩
        cases result with
        | error fault => exact .fail kept
        | ok _ => exact .done ⟨rfl, kept⟩

end Async.Receiver

namespace Ssdo.Outbound.Consumer

def onReceiverChecked {α : Type} (checked : Checked Medium Channel.Receiver α) : Checked Host State α :=
  .part (·.1.receiver) (fun receiver state => ({ state.1 with receiver }, state.2)) checked.onHost

/-- The payload is looked for in the space, also when the frame came in an earlier call. -/
def offerChecked : Checked Host State Unit := do
  match (← .lift Action.get).1.frame with
  | none => .lift (enter .waitForFrame)
  | some message =>
    let payload ← .inside (message.header.payload? (← .space))
    let answer ← .lift (Action.ask (Host.transmit message.header.channel payload))
    .lift (settle answer)

def takeFrameChecked : Checked Host State Unit := do
  match ← onReceiverChecked pollChecked with
  | none => return
  | some (message, _) =>
    if message.duplicate then onReceiverChecked (.lift (Channel.Receiver.acknowledge message))
    else
      .lift (change fun consumer => { consumer with frame := some message })
      .lift (enter .offerFrame)
      offerChecked

def processChecked : Checked Host State Unit := do
  let (consumer, pool) ← .lift Action.get
  match consumer.phase with
  | .waitForFrame => takeFrameChecked
  | .offerFrame => offerChecked
  | .waitForRetry =>
    match ← .lift (Action.ofExcept (pool.phase consumer.timer)) with
    | .expired =>
      .lift (enter .offerFrame)
      offerChecked
    | _ => .lift (Action.fail .busy)
  | .waitUntilSent => .lift (Action.fail .busy)
  | .sent => .lift release

/-- The frame that is held stands in the space; while the next one is waited for, none is held. -/
structure Retains (d : Descriptor) (space : Bytes) (consumer : Consumer) : Prop where
  stays : consumer.receiver.Stays d maxMessage space
  there : ∀ message, consumer.frame = some message →
    message.header.payload? space = some message.payload
  waits : consumer.phase = .waitForFrame → consumer.frame = none

variable {consumer : Consumer} {pool : TimerPool}

/-- Once the frame is given up, nothing is held any more. -/
theorem release_asks : release.AsksFrom (fun state => state.1.Retains d space) fun _ => True := by
  rintro ⟨⟨receiver, phase, frame, timer, retries⟩, pool⟩ holds
  let free (state : State) : Prop := state.1.receiver.Stays d maxMessage space ∧ state.1.frame = none
  have ended {action : Action Host State Unit} (freed : action.AsksFrom free fun _ => True) :
      (action (⟨receiver, phase, none, timer, retries⟩, pool)).Asks (fun _ => True) fun left =>
        left.2.1.Retains d space := by
    have left := freed (⟨receiver, phase, none, timer, retries⟩, pool) ⟨holds.stays, rfl⟩
    refine left.mono (fun _ granted => granted) fun left free => ⟨free.1, ?_, fun _ => free.2⟩
    rw [free.2]
    exact nofun
  have rest : Action.AsksFrom free (fun _ => True) (do
      change fun consumer => { consumer with retries := 0 }
      onTimer TimerPool.stop
      enter .waitForFrame) :=
    .bind (.modify fun _ start => start) fun _ => .bind (.onTimer fun _ _ _ start => start) fun _ =>
      .modify fun _ start => start
  cases frame with
  | none => exact (ended rest :)
  | some message =>
    have acknowledged : Action.AsksFrom free (fun _ => True)
        (onReceiver (Channel.Receiver.acknowledge message)) :=
      .part (Channel.Receiver.acknowledge_asks message).onHost (fun _ start => start.1.1)
        fun changed state region start => ⟨⟨region, start.1.2⟩, start.2⟩
    exact (ended (.bind acknowledged fun _ => rest) :)

theorem settle_asks (answer : Except Error Handoff) :
    (settle answer).AsksFrom (fun state => state.1.Retains d space) fun _ => True := by
  match answer with
  | .ok .queued =>
    exact .bind (.onTimer fun _ _ _ holds => holds) fun _ =>
      .modify fun _ holds => ⟨holds.stays, holds.there, nofun⟩
  | .ok .addressPending =>
    refine .get_then fun _ _ => .ite ?_ (.bind release_asks fun _ => .fail _)
    exact .bind (.modify fun _ holds => ⟨holds.stays, holds.there, holds.waits⟩) fun _ =>
      .bind (.onTimer fun _ _ _ holds => holds) fun _ =>
      .bind (.modify fun _ holds => ⟨holds.stays, holds.there, nofun⟩) fun _ => .fail _
  | .error error => exact .bind release_asks fun _ => .fail _

theorem offerChecked_agrees (holds : consumer.Retains d space) :
    offerChecked.Agrees Host.Sound offer (consumer, pool) space
      (fun _ _ left after => left.1.Retains d after) fun left after => left.1.Retains d after := by
  apply Checked.Agrees.get_then
  dsimp only
  cases held : consumer.frame with
  | none => exact Checked.Agrees.modify ⟨holds.stays, holds.there, fun _ => held⟩
  | some message =>
    apply Checked.Agrees.space_then
    apply Checked.Agrees.inside_then (holds.there message held)
    refine .ask_then fun answer => ?_
    exact .lift (settle_asks answer) holds (fun _ _ stays => stays) fun _ stays => stays

theorem takeFrameChecked_agrees (stays : consumer.receiver.Stays d maxMessage space)
    (free : consumer.frame = none) :
    takeFrameChecked.Agrees Host.Sound takeFrame (consumer, pool) space
      (fun _ _ left after => left.1.Retains d after) fun left after => left.1.Retains d after := by
  have idle {receiver : Channel.Receiver} {after : Bytes} (stays : receiver.Stays d maxMessage after) :
      Retains d after { consumer with receiver } :=
    ⟨stays, fun _ held => (nomatch free.symm.trans held), fun _ => free⟩
  refine .part_then (pollChecked_agrees stays) ?_ fun _ _ => idle
  rintro _ _ receiver after ⟨region, polled⟩
  cases polled with
  | nothing whole => exact .done (idle ⟨region, whole⟩)
  | @message message _ _ whole fits inside within there =>
    apply Checked.Agrees.ite
    · intro _
      apply Checked.Agrees.part
      exact (acknowledge_agrees message ⟨region, whole⟩).onHost.mono (fun _ _ _ _ ended => idle ended.1)
        fun _ _ ended => idle ended.1
    · intro _
      apply Checked.Agrees.modify_then
      apply Checked.Agrees.modify_then
      refine offerChecked_agrees ⟨⟨region, whole⟩, ?_, nofun⟩
      rintro _ ⟨⟩
      exact there

/-- Whatever the peer does, a held frame is found again in the space, call after call. -/
theorem processChecked_agrees (holds : consumer.Retains d space) :
    processChecked.Agrees Host.Sound process (consumer, pool) space
      (fun _ _ left after => left.1.Retains d after) fun left after => left.1.Retains d after := by
  apply Checked.Agrees.get_then
  dsimp only
  cases phase : consumer.phase with
  | waitForFrame => exact takeFrameChecked_agrees holds.stays (holds.waits phase)
  | offerFrame => exact offerChecked_agrees holds
  | waitForRetry =>
    refine .ofExcept_then (fun phase => ?_) holds
    cases phase with
    | expired =>
      apply Checked.Agrees.modify_then
      exact offerChecked_agrees ⟨holds.stays, holds.there, nofun⟩
    | stopped => exact .fail holds
    | running cycles => exact .fail holds
  | waitUntilSent => exact .fail holds
  | sent => exact .lift release_asks holds (fun _ _ stays => stays) fun _ stays => stays

end Ssdo.Outbound.Consumer

end NodeLink
