import NodeLink.Proofs.Bounds.Consumers
import NodeLink.Proofs.Bounds.Copying
import NodeLink.Proofs.ProcessData

/-! A peer that does what it likes. Its words may change between any two accesses, and to anything; the
consumers that read them are called in any order, with other calls in between. No index and no range is
missed, as every checked call has the outcome of the call that runs. -/
namespace NodeLink

open Channel (Message maxMessage)

/-- A consumer with a space of its own. -/
structure Reader where
  State : Type
  Reply : Type
  /-- A call that has nothing to do with the space. -/
  Call : Type
  process : Action Host State Reply
  checked : Checked Host State Reply
  apply : Call → State → State
  /-- A new consumer. -/
  Starts : State → Prop
  room : Nat

namespace Reader

variable {ω : Type}

inductive Step (reader : Reader) where
  | process
  | call (call : reader.Call)

section

variable (reader : Reader) (peer : Peer ω)

/-- The replies of the calls of `process`, and what is left. -/
def run : List reader.Step → reader.State → ω →
    List (Except Fault reader.Reply) × reader.State × ω
  | [], state, world => ([], state, world)
  | .call call :: rest, state, world => run rest (reader.apply call state) world
  | .process :: rest, state, world =>
    let ((reply, state), world) := reader.process.run peer.onHost state world
    let (replies, left) := run rest state world
    (reply :: replies, left)

/-- The same, unless a checked call misses a buffer. -/
def runChecked : List reader.Step → reader.State → Bytes → ω →
    Option (List (Except Fault reader.Reply) × reader.State × ω)
  | [], state, _, world => some ([], state, world)
  | .call call :: rest, state, space, world => runChecked rest (reader.apply call state) space world
  | .process :: rest, state, space, world =>
    match (reader.checked state space).run peer.onHost world with
    | (none, _) => none
    | (some (reply, state, space), world) =>
      (runChecked rest state space world).map fun (replies, left) => (reply :: replies, left)

end

/-- What holds between the calls, and keeps the checked call from missing a buffer. -/
structure Law (reader : Reader) where
  Inv : reader.State → Bytes → Prop
  starts {state : reader.State} (starts : reader.Starts state) : Inv state (Bytes.zeros reader.room)
  applies {state : reader.State} {space : Bytes} (call : reader.Call) (inv : Inv state space) :
    Inv (reader.apply call state) space
  agrees {state : reader.State} {space : Bytes} (inv : Inv state space) :
    reader.checked.Agrees Host.Sound reader.process state space
      (fun reply found left after => reply = found ∧ Inv left after) Inv

/-- What needs no more than a space of its length. -/
def Law.ofLength {reader : Reader} (agrees : ∀ {state : reader.State} {space : Bytes},
    space.length = reader.room → reader.checked.Agrees Host.Sound reader.process state space
      (fun reply found _ after => reply = found ∧ after.length = reader.room)
      fun _ after => after.length = reader.room) : Law reader where
  Inv _ space := space.length = reader.room
  starts _ := List.length_replicate
  applies _ whole := whole
  agrees whole := agrees whole

section Runs

variable {reader : Reader} {state : reader.State} {space : Bytes}

/-- Call after call, nothing is missed, and everything is as in the run without checks. -/
theorem Law.runChecked_eq (law : Law reader) (peer : Peer ω) (inv : law.Inv state space)
    (steps : List reader.Step) (world : ω) :
    reader.runChecked peer steps state space world = some (reader.run peer steps state world) := by
  induction steps generalizing state space world with
  | nil => rfl
  | cons step rest ih =>
    cases step with
    | call call => exact ih (law.applies call inv) world
    | process =>
      obtain ⟨agreed, same⟩ := Prog.Matches.run peer.onHost_sound (law.agrees inv) world
      unfold runChecked run Action.run
      generalize (reader.checked state space).run peer.onHost world = checked at agreed same
      generalize (reader.process state).run peer.onHost world = ended at agreed same
      obtain ⟨outcome, world⟩ := checked
      obtain ⟨result, left⟩ := ended
      cases same
      cases agreed with
      | ok holds =>
        obtain ⟨rfl, kept⟩ := holds
        simp only [ih kept, Option.map_some]
      | failed kept => simp only [ih kept, Option.map_some]

end Runs

end Reader

/-! The consumers. -/

namespace Status

def reader : Reader where
  State := End
  Reply := Bool
  Call := Empty
  process := refresh.onHost
  checked := refreshChecked.onHost
  apply := nofun
  Starts side := ∃ buffer, new .consumer buffer = .ok side
  room := 0

def law : reader.Law where
  Inv _ _ := True
  starts _ := trivial
  applies := nofun
  agrees _ := refreshChecked_agrees.onHost.mono (fun _ _ _ _ same => ⟨same, trivial⟩) fun _ _ _ => trivial

end Status

namespace ProcessData.Consumer

def reader : Reader where
  State := Consumer
  Reply := Bool
  Call := (ObjectRef → Option Nat) × List Link
  process := refresh.onHost
  checked := refreshChecked.onHost
  apply := fun (sizeOf, links) consumer =>
    match consumer.link sizeOf links with
    | .error _ => consumer
    | .ok linked => linked
  Starts consumer := ∃ buffer, new buffer = .ok consumer
  room := maxImage

theorem fits_of_new {buffer : TripleBuffer} {consumer : Consumer} (made : new buffer = .ok consumer) :
    consumer.Fits (Bytes.zeros maxImage) where
  space := List.length_replicate
  image := by
    unfold new at made
    split at made
    · contradiction
    obtain ⟨image, filled, rfl⟩ := map_eq_ok made
    unfold imageOf at filled
    split at filled
    · contradiction
    rename_i small
    cases filled
    exact Nat.le_trans (Nat.le_of_eq List.length_replicate) (Nat.not_lt.mp small)

theorem Fits.link {consumer : Consumer} {space : Bytes} (fits : consumer.Fits space)
    (call : reader.Call) : Fits (reader.apply call consumer) space := by
  obtain ⟨sizeOf, links⟩ := call
  change Fits (match consumer.link sizeOf links with | .error _ => consumer | .ok linked => linked) space
  cases found : consumer.link sizeOf links with
  | error error => exact fits
  | ok linked =>
    exact ⟨fits.space, by rw [Image.size, (link_eq_ok found).2]; exact fits.image⟩

def law : reader.Law where
  Inv := Fits
  starts := fun ⟨_, made⟩ => fits_of_new made
  applies call fits := fits.link call
  agrees fits := (refreshChecked_agrees fits).onHost

end ProcessData.Consumer

namespace ConfigurationChannel.Consumer

def reader : Reader where
  State := Consumer
  Reply := Option ObjectWrite
  Call := (ObjectRef → Option Nat) × List Link
  process := process
  checked := processChecked
  apply := fun (sizeOf, links) consumer => (consumer.link sizeOf links).2
  Starts consumer := ∃ buffer, new buffer = .ok consumer
  room := maxMessage

def law : reader.Law := .ofLength fun whole => (processChecked_agrees ⟨rfl, whole⟩).mono
  (fun _ _ _ _ ended => ⟨ended.1, ended.2.2⟩) fun _ _ stays => stays.2

end ConfigurationChannel.Consumer

namespace Ssdo.Inbound.Consumer

def reader : Reader where
  State := Consumer
  Reply := Bool
  Call := Empty
  process := process
  checked := processChecked
  apply := nofun
  Starts consumer := ∃ buffer, new buffer = .ok consumer
  room := maxMessage

def law : reader.Law := .ofLength fun whole => (processChecked_agrees ⟨rfl, whole⟩).mono
  (fun _ _ _ _ ended => ⟨ended.1, ended.2.2⟩) fun _ _ stays => stays.2

end Ssdo.Inbound.Consumer

namespace Ssdo.Outbound.Consumer

/-- What is called besides `process`: the network has sent a frame, or timers have changed. -/
inductive Notice where
  | sent
  | timers (pool : TimerPool)

def Notice.apply : Notice → State → State
  | sent, (consumer, pool) =>
    match consumer.finish with
    | .error _ => (consumer, pool)
    | .ok finished => (finished, pool)
  | timers pool, (consumer, _) => (consumer, pool)

def reader : Reader where
  State := State
  Reply := Unit
  Call := Notice
  process := process
  checked := processChecked
  apply := Notice.apply
  Starts state := ∃ buffer cycles pool, new buffer cycles pool = .ok state
  room := maxMessage

theorem retains_of_new {buffer : TripleBuffer} {cycles : Nat} {pool : TimerPool} {state : State}
    (made : new buffer cycles pool = .ok state) :
    state.1.Retains buffer.region (Bytes.zeros maxMessage) := by
  unfold new Channel.Receiver.new at made
  split at made
  · cases created : pool.create cycles with
    | error error =>
      rw [created] at made
      contradiction
    | ok taken =>
      rw [created] at made
      cases made
      exact ⟨⟨rfl, List.length_replicate⟩, nofun, fun _ => rfl⟩
  · contradiction

theorem Retains.notice {d : Descriptor} {space : Bytes} {state : State} (holds : state.1.Retains d space)
    (notice : Notice) : (notice.apply state).1.Retains d space := by
  obtain ⟨consumer, pool⟩ := state
  cases notice with
  | timers other => exact holds
  | sent =>
    change (match consumer.finish with
      | .error _ => (consumer, pool)
      | .ok finished => (finished, pool)).1.Retains d space
    cases finished : consumer.finish with
    | error error => exact holds
    | ok left =>
      unfold finish at finished
      split at finished
      · cases finished
        exact ⟨holds.stays, holds.there, nofun⟩
      · contradiction

def law : reader.Law where
  Inv state space := ∃ d, Retains d space state.1
  starts := fun ⟨_, _, _, made⟩ => ⟨_, retains_of_new made⟩
  applies notice := fun ⟨_, holds⟩ => ⟨_, holds.notice notice⟩
  agrees := fun ⟨_, holds⟩ => (processChecked_agrees holds).mono
    (fun _ _ _ _ holds => ⟨rfl, _, holds⟩) fun _ _ holds => ⟨_, holds⟩

end Ssdo.Outbound.Consumer

namespace Logbook.Consumer

def reader : Reader where
  State := Consumer
  Reply := Bool
  Call := Empty
  process := process
  checked := processChecked
  apply := nofun
  Starts consumer := ∃ buffer, new buffer = .ok consumer
  room := maxMessage

def law : reader.Law := .ofLength fun whole => (processChecked_agrees ⟨rfl, whole⟩).mono
  (fun _ _ _ _ ended => ⟨ended.1, ended.2.2⟩) fun _ _ stays => stays.2

end Logbook.Consumer

namespace Async.Receiver

variable [Checksums]

def reader : Reader where
  State := Receiver
  Reply := Bool
  Call := UInt8
  process := process
  checked := processChecked
  apply channel receiver :=
    match receiver.register channel with
    | .error _ => receiver
    | .ok registered => registered
  Starts receiver := ∃ buffer, new buffer = .ok receiver
  room := maxMessage

def law : reader.Law := .ofLength fun whole => (processChecked_agrees ⟨rfl, whole⟩).mono
  (fun _ _ _ _ ended => ⟨ended.1, ended.2.2⟩) fun _ _ stays => stays.2

end Async.Receiver

namespace Reader

inductive Kind where
  | status
  | image
  | configuration
  | inbound
  | outbound
  | logbook
  | async
  deriving DecidableEq, Repr

namespace Kind

variable [Checksums]

def reader : Kind → Reader
  | status => Status.reader
  | image => ProcessData.Consumer.reader
  | configuration => ConfigurationChannel.Consumer.reader
  | inbound => Ssdo.Inbound.Consumer.reader
  | outbound => Ssdo.Outbound.Consumer.reader
  | logbook => Logbook.Consumer.reader
  | async => Async.Receiver.reader

def law : (kind : Kind) → kind.reader.Law
  | status => Status.law
  | image => ProcessData.Consumer.law
  | configuration => ConfigurationChannel.Consumer.law
  | inbound => Ssdo.Inbound.Consumer.law
  | outbound => Ssdo.Outbound.Consumer.law
  | logbook => Logbook.Consumer.law
  | async => Async.Receiver.law

end Kind

end Reader

/-- A peer whose words are read off a script, and are zero after it. -/
def Peer.scripted : Peer (List UInt32) where
  words
    | .load _, script => (.ok (script.headD 0), script.tail)
    | .store _ _, script => (.ok (), script)
  others request script := (Surroundings.plainAnswer request, script)

/-- No peer makes a reader index or slice beyond a buffer. Every checked operation has an outcome, that of
the one that runs: a read of any buffer into any space, and what it tells of lies in the slot and in the
space; the copy of loaded words; a poll, and the message lies among the bytes that were read; every
consumer, call after call; and the reading of any message as a frame. -/
theorem peer_misses_no_buffer [Checksums] {ω : Type} (peer : Peer ω) (world : ω) :
    (∀ (buffer : TripleBuffer) (space : Bytes),
      Checked.Agreed (fun snapshot found left after => left.region = buffer.region ∧
          found.1 = snapshot ∧ TripleBuffer.Landed buffer.slotSize space.length snapshot found.2 after)
        (TripleBuffer.Stays buffer.region space.length)
        ((TripleBuffer.readChecked buffer space).run peer.onMedium world).1
        ((TripleBuffer.read space.length).run peer.onMedium buffer world).1) ∧
    (∀ (address : Nat) (space : Bytes),
      Checked.Agreed (fun failure transfer _ after => failure = transfer.failure ∧
          after = space.overlay 0 transfer.moved) (fun _ _ => False)
        ((Bus.copyBytes address () space).run peer.onBus world).1
        ((Action.ask (Bus.answer (.loadBytes address space.length))).run peer.onBus () world).1) ∧
    (∀ (receiver : Channel.Receiver) (space : Bytes),
      Checked.Agreed (fun found message left after => left.buffer.region = receiver.buffer.region ∧
          Channel.Receiver.Found receiver.buffer.slotSize space.length found message after)
        (Channel.Receiver.Stays receiver.buffer.region space.length)
        ((Channel.Receiver.pollChecked receiver space).run peer.onMedium world).1
        ((Channel.Receiver.poll space.length).run peer.onMedium receiver world).1) ∧
    (∀ (kind : Reader.Kind) (state : kind.reader.State) (steps : List kind.reader.Step),
      kind.reader.Starts state →
        kind.reader.runChecked peer steps state (Bytes.zeros kind.reader.room) world =
          some (kind.reader.run peer steps state world)) ∧
    ∀ message : Bytes, (Safety.Frame.ofMessage? message).Gives (Safety.Frame.ofMessage message) := by
  refine ⟨fun buffer space => ?_, fun address space => ?_, fun receiver space => ?_,
    fun kind state steps starts => ?_, Safety.Frame.ofMessage?_gives⟩
  · exact (Prog.Matches.run peer.onMedium_sound (TripleBuffer.readChecked_agrees ⟨rfl, rfl⟩) world).1
  · exact (Prog.Matches.run (fun _ _ => trivial) (Bus.copyBytes_agrees address) world).1
  · exact (Prog.Matches.run peer.onMedium_sound
      (Channel.Receiver.pollChecked_agrees ⟨rfl, rfl⟩) world).1
  · exact kind.law.runChecked_eq peer (kind.law.starts starts) steps world

/-- A length beyond the slot, a header whose payload is not there, and then a record. -/
theorem scripted_peer_misses_no_buffer :
    let buffer := TripleBuffer.new .consumer ⟨.logbook, 0, 14⟩ 0
    let script := [1, 0, 1, 1, 1, 65535,
      1, 0, 1, 1, 1, 6, 0x2001, 0xFFFF, 1,
      2, 0, 2, 2, 2, 14, 0x2001, 0x02010008, 0x44332211, 0x6655, 2]
    Logbook.Consumer.new buffer = .ok ⟨buffer, .none⟩ ∧
      (Logbook.Consumer.reader.runChecked Peer.scripted [.process, .process, .process] ⟨buffer, .none⟩
          (Bytes.zeros maxMessage) script).map Prod.fst =
        some [.error .busy, .error (.error .malformed), .ok true] := by
  intro buffer script
  have same := (peer_misses_no_buffer Peer.scripted script).2.2.2.1 .logbook ⟨buffer, .none⟩
    [.process, .process, .process] ⟨buffer, rfl⟩
  have replies : @Eq (List (Except Fault Bool))
      (Logbook.Consumer.reader.run Peer.scripted [.process, .process, .process] ⟨buffer, .none⟩ script).1
        [.error .busy, .error (.error .malformed), .ok true] := by
    subst script buffer
    rfl
  exact ⟨rfl, (congrArg (Option.map Prod.fst) same).trans (congrArg some replies)⟩

end NodeLink
