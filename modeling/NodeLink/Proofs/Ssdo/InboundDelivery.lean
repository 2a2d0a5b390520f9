import NodeLink.Proofs.Ssdo.InboundConsumer
import NodeLink.Proofs.TripleBuffer.Connection

/-! Frames from the network to the application, over any run of the two ends. Calls come in any order,
the other processor may work between the parts of a call of the application's end, and accesses may
fail: the application is given accepted frames in order, and none of them twice. -/
namespace NodeLink.Ssdo.Inbound

open Channel (number)
open TripleBuffer (anyAccess)

/-- How far the application's end is in a call. -/
inductive Stage where
  | idle
  | polled (message : Channel.Message)
  | handed (message : Channel.Message)

/-- The two ends on one buffer, with the frames that were put into the queue. -/
structure System where
  world : World
  producer : Producer.State
  consumer : Consumer
  stage : Stage
  accepted : List QueuedFrame

inductive Call where
  | accept (arrival : Arrival)
  | process
  | tick
  | consume
  deriving DecidableEq, Repr

/-- A whole call, or the next part of a call of the application's end. -/
inductive Turn where
  | call (call : Call)
  | poll
  | hand
  | acknowledge
  deriving DecidableEq, Repr

namespace System

/-- The ends right after the buffer was made, on the processor that owns its memory. -/
def setUp (owner : Role) (d : Descriptor) (channel : UInt8) (ackTimeout : Nat) (pool : TimerPool)
    (memory : SharedMemory) : Except Fault System :=
  match (TripleBuffer.connect owner d).inWords.run SharedMemory.onWords memory with
  | (.error fault, _) => .error fault
  | (.ok (producing, consuming), memory) =>
    match Producer.new producing channel ackTimeout pool, Consumer.new consuming with
    | .ok producer, .ok consumer => .ok ⟨⟨memory, 0, []⟩, producer, consumer, .idle, []⟩
    | .error error, _ | _, .error error => .error (.error error)

def produce (surroundings : Surroundings) (system : System)
    (action : Action Medium Producer.State Unit) : System :=
  let outcome := action.onHost.run surroundings.onHost system.producer system.world
  { system with producer := outcome.1.2, world := outcome.2 }

def act {α : Type} (surroundings : Surroundings) (system : System) (action : Action Host Consumer α) :
    Except Fault α × System :=
  let outcome := action.run surroundings.onHost system.consumer system.world
  (outcome.1.1, { system with consumer := outcome.1.2, world := outcome.2 })

/-- The frames that an arrival put into the queue count as accepted. -/
def accept (system : System) (arrival : Arrival) : System :=
  match system.producer.1.accept arrival with
  | .error _ => system
  | .ok producer =>
    { system with
      producer := (producer, system.producer.2)
      accepted := system.accepted ++
        producer.queue.toList.drop system.producer.1.queue.toList.length }

def call (surroundings : Surroundings) (system : System) : Call → System
  | .accept arrival => system.accept arrival
  | .process => system.produce surroundings Producer.process
  | .tick => system.produce surroundings Producer.tick
  | .consume =>
    match system.stage with
    | .idle => (system.act surroundings Consumer.process).2
    | _ => system

def step (surroundings : Surroundings) (system : System) : Turn → System
  | .call call => system.call surroundings call
  | .poll =>
    match system.stage with
    | .idle =>
      match system.act surroundings Consumer.poll with
      | (.ok (some message), system) => { system with stage := .polled message }
      | (_, system) => system
    | _ => system
  | .hand =>
    match system.stage with
    | .polled message =>
      { (system.act surroundings (Consumer.hand message)).2 with stage := .handed message }
    | _ => system
  | .acknowledge =>
    match system.stage with
    | .handed message =>
      { (system.act surroundings (Consumer.acknowledge message)).2 with stage := .idle }
    | _ => system

def after (surroundings : Surroundings) (system : System) (turns : List Turn) : System :=
  turns.foldl (step surroundings) system

def delivered (system : System) : List Bytes := deliveries system.world.events

end System

/-- The frames given to the application are among the first of those accepted, as far as the message at
hand has come. -/
def Stage.Sound (frames : List QueuedFrame) (delivered : List Bytes) (posted taken : Nat) :
    Stage → Prop
  | .idle => delivered.Sublist ((frames.map QueuedFrame.payload).take taken)
  | .polled message => delivered.Sublist ((frames.map QueuedFrame.payload).take taken) ∧
    ∃ index, index < posted ∧ taken ≤ index + 1 ∧ Consumer.Carried frames taken index message
  | .handed message => ∃ index, index < posted ∧ taken ≤ index + 1 ∧
    message.header.number = number (index + 1) ∧
    delivered.Sublist ((frames.map QueuedFrame.payload).take (index + 1))

/-- The latest message carries the frame posted last, and the application's end has the number of the
frame taken last. -/
structure Between (d : Descriptor) (frames : List QueuedFrame) (posted taken : Nat)
    (consumer : Consumer) (world : World) : Prop where
  shown : ∃ published acked, d.Carries world.memory published acked ∧ Tells frames posted published
  consuming : ∃ lastSeen, consumer.receiver.buffer.Consumes d lastSeen
  numbered : consumer.receiver.delivered = number taken

/-- What holds between two turns. -/
structure System.Sound (d : Descriptor) (system : System) (settled posted taken : Nat) : Prop where
  producer : Producer.Sound d system.accepted settled posted system.producer
  between : Between d system.accepted posted taken system.consumer system.world
  upto : taken ≤ posted
  stage : system.stage.Sound system.accepted system.delivered posted taken

variable {d : Descriptor} {system : System} {frames : List QueuedFrame} {delivered : List Bytes}
  {settled posted taken : Nat}

/-- A frame beyond those delivered so far may be delivered next. -/
theorem sublist_take_succ {index : Nat} {payload : Bytes} {payloads : List Bytes}
    (before : delivered.Sublist (payloads.take taken)) (onward : taken ≤ index)
    (found : payloads[index]? = some payload) :
    (delivered ++ [payload]).Sublist (payloads.take (index + 1)) := by
  rw [List.take_add_one, found]
  exact (before.trans (List.take_sublist_take_left onward)).append (List.Sublist.refl _)

theorem Consumer.Carried.payload {index : Nat} {message : Channel.Message}
    (carried : Consumer.Carried frames taken index message) :
    (frames.map QueuedFrame.payload)[index]? = some message.payload := by
  obtain ⟨frame, found, same⟩ := carried.frame
  rw [List.getElem?_map, found, Option.map_some, same]

/-- Handing over a polled message: a fresh one has another number than the one taken last, so it is
not the same frame. -/
theorem Consumer.Carried.handed {index : Nat} {message : Channel.Message}
    (carried : Consumer.Carried frames taken index message) (onward : taken ≤ index + 1)
    (before : delivered.Sublist ((frames.map QueuedFrame.payload).take taken)) :
    (delivered ++ if message.duplicate then [] else [message.payload]).Sublist
      ((frames.map QueuedFrame.payload).take (index + 1)) := by
  cases duplicate : message.duplicate with
  | true =>
    simp only [if_true, List.append_nil]
    exact before.trans (List.take_sublist_take_left onward)
  | false =>
    have other : taken ≠ index + 1 := by
      rintro rfl
      rw [carried.duplicate, beq_self_eq_true] at duplicate
      contradiction
    exact sublist_take_succ before (by omega) carried.payload

theorem Stage.Sound.grow {stage : Stage} {more : List QueuedFrame} {further : Nat}
    (sound : stage.Sound frames delivered posted taken) (upto : posted ≤ frames.length)
    (before : taken ≤ posted) (onward : posted ≤ further) :
    stage.Sound (frames ++ more) delivered further taken := by
  have same {count : Nat} (inside : count ≤ posted) :
      ((frames ++ more).map QueuedFrame.payload).take count =
        (frames.map QueuedFrame.payload).take count := by
    rw [List.map_append, List.take_append_of_le_length]
    rw [List.length_map]
    omega
  cases stage with
  | idle =>
    change delivered.Sublist (((frames ++ more).map QueuedFrame.payload).take taken)
    rw [same before]
    exact sound
  | polled message =>
    obtain ⟨delivered, index, inside, after, carried⟩ := sound
    refine ⟨(same before).symm ▸ delivered, index, by omega, after, ?_⟩
    obtain ⟨frame, found, payload⟩ := carried.frame
    refine { carried with frame := ⟨frame, ?_, payload⟩ }
    rw [List.getElem?_append_left (by omega)]
    exact found
  | handed message =>
    obtain ⟨index, inside, after, named, delivered⟩ := sound
    exact ⟨index, by omega, after, named, (same inside).symm ▸ delivered⟩

theorem Tells.grow {published : List Bytes} {more : List QueuedFrame}
    (tells : Tells frames posted published) : Tells (frames ++ more) posted published := by
  intro bytes last
  obtain ⟨index, header, frame, count, found, rest⟩ := tells bytes last
  refine ⟨index, header, frame, count, ?_, rest⟩
  rw [List.getElem?_append_left (List.getElem?_eq_some_iff.mp found).1]
  exact found

theorem accept_keeps (arrival : Arrival) (sound : system.Sound d settled posted taken) :
    (system.accept arrival).Sound d settled posted taken := by
  unfold System.accept
  split
  · exact sound
  · rename_i producer accepted
    obtain ⟨more, queue, grown⟩ := Producer.accept_sound sound.producer accepted
    obtain ⟨published, acked, carries, tells⟩ := sound.between.shown
    have new : producer.queue.toList.drop system.producer.1.queue.toList.length = more := by
      rw [queue, List.drop_left]
    rw [new]
    exact { sound with
      producer := grown
      between := { sound.between with shown := ⟨published, acked, carries, tells.grow⟩ }
      stage := sound.stage.grow sound.producer.upto sound.upto (Nat.le_refl _) }

theorem Producer.Effect.shown {published : List Bytes} {acked : Sequence} {left : Producer.State}
    {after : SharedMemory}
    (effect : Producer.Effect d frames settled posted published acked left after)
    (tells : Tells frames posted published) :
    ∃ settled further published, posted ≤ further ∧ Producer.Sound d frames settled further left ∧
      d.Carries after published acked ∧ Tells frames further published := by
  cases effect with
  | quiet sound carries => exact ⟨_, _, _, Nat.le_refl _, sound, carries, tells⟩
  | reposted bytes sound carries tells => exact ⟨_, _, _, Nat.le_refl _, sound, carries, tells⟩
  | posted bytes idle ready sound carries tells => exact ⟨_, _, _, Nat.le_succ _, sound, carries, tells⟩
  | settled ready sound carries => exact ⟨_, _, _, Nat.le_refl _, sound, carries, tells⟩

/-- A run of the producing end, which ends in whatever its operation ensures. -/
theorem System.produce_ends (surroundings : Surroundings) (system : System)
    (action : Action Medium Producer.State Unit) :
    ∃ result left world, system.produce surroundings action =
        { system with producer := left, world } ∧
      ∀ {ok : Unit → Producer.State → SharedMemory → Prop}
        {failed : Fault → Producer.State → SharedMemory → Prop},
        action.Ensures surroundings.Faulty anyAccess system.producer system.world.memory ok failed →
          Action.Ended ok failed (result, left) world.memory ∧
            world.events = system.world.events := by
  refine ⟨(action.onHost.run surroundings.onHost system.producer system.world).1.1, _, _, rfl,
    fun holds => ?_⟩
  have ended := holds.onHost.run surroundings
  generalize action.onHost.run surroundings.onHost system.producer system.world = outcome
    at ended ⊢
  obtain ⟨⟨fault | _, left⟩, world⟩ := outcome <;> exact ended

theorem process_keeps (surroundings : Surroundings) (sound : system.Sound d settled posted taken) :
    ∃ settled posted, (system.produce surroundings Producer.process).Sound d settled posted taken := by
  obtain ⟨published, acked, carries, tells⟩ := sound.between.shown
  obtain ⟨result, left, world, produced, ends⟩ :=
    system.produce_ends surroundings Producer.process
  obtain ⟨ended, quiet⟩ := ends (Producer.process_leaves sound.producer carries)
  have effect : Producer.Effect d system.accepted settled posted published acked left
      world.memory := by
    cases result <;> exact ended
  obtain ⟨settled, further, published, onward, producer, carries, tells⟩ := effect.shown tells
  rw [produced]
  refine ⟨settled, further, producer, { sound.between with
    shown := ⟨published, acked, carries, tells⟩ }, Nat.le_trans sound.upto onward, ?_⟩
  have grown : system.stage.Sound (system.accepted ++ []) system.delivered further taken :=
    sound.stage.grow sound.producer.upto sound.upto onward
  rw [List.append_nil] at grown
  change system.stage.Sound system.accepted (deliveries world.events) further taken
  rw [quiet]
  exact grown

theorem System.call_tick (surroundings : Surroundings)
    (live : system.producer.2.Live system.producer.1.timer) :
    ∃ pool, system.producer.2.tick system.producer.1.timer = .ok pool ∧
      pool.Live system.producer.1.timer ∧
      system.call surroundings .tick = { system with producer := (system.producer.1, pool) } := by
  obtain ⟨pool, ticked, live, same⟩ := Producer.tick_eq live
  refine ⟨pool, ticked, live, ?_⟩
  simp only [System.call, System.produce, Action.onHost, Action.interpret, Action.run, same]
  rfl

theorem tick_keeps (surroundings : Surroundings) (sound : system.Sound d settled posted taken) :
    (system.call surroundings .tick).Sound d settled posted taken := by
  obtain ⟨pool, _, live, called⟩ := system.call_tick surroundings sound.producer.live
  rw [called]
  exact { sound with producer := { sound.producer with live } }

variable {consumer : Consumer} {world : World} {faults : Prop} {message : Channel.Message}

theorem Between.poll (between : Between d frames posted taken consumer world) :
    Consumer.poll.Meets faults consumer world
      (fun polled left after => Between d frames posted taken left after ∧
        after.events = world.events ∧ ∀ message, polled = some message →
          ∃ index, posted = index + 1 ∧ Consumer.Carried frames taken index message)
      fun _ left after => Between d frames posted taken left after ∧
        after.events = world.events := by
  obtain ⟨⟨published, acked, carries, tells⟩, ⟨lastSeen, consuming⟩, numbered⟩ := between
  apply (Consumer.poll_meets consuming numbered carries tells).mono
  · rintro polled left after ⟨numbered, carries, quiet, found⟩
    cases polled with
    | none => exact ⟨⟨⟨_, _, carries, tells⟩, ⟨_, found.2⟩, numbered⟩, quiet, nofun⟩
    | some message =>
      obtain ⟨_, consuming, _, carried⟩ := found
      refine ⟨⟨⟨_, _, carries, tells⟩, ⟨_, consuming⟩, numbered⟩, quiet, ?_⟩
      rintro _ ⟨⟩
      exact carried
  · rintro fault left after ⟨numbered, carries, quiet, consuming, _⟩
    exact ⟨⟨⟨_, _, carries, tells⟩, ⟨_, consuming⟩, numbered⟩, quiet⟩

theorem Between.hand (between : Between d frames posted taken consumer world) :
    (Consumer.hand message).Meets faults consumer world
      (fun _ left after => Between d frames posted taken left after ∧
        deliveries after.events =
          deliveries world.events ++ if message.duplicate then [] else [message.payload])
      fun _ _ _ => False := by
  refine Consumer.hand_meets.mono ?_ fun _ _ _ failed => failed
  rintro _ _ after ⟨rfl, same, handed⟩
  exact ⟨⟨same.symm ▸ between.shown, between.consuming, between.numbered⟩, handed⟩

theorem Between.acknowledge {index : Nat} (between : Between d frames posted taken consumer world)
    (named : message.header.number = number (index + 1)) :
    (Consumer.acknowledge message).Meets faults consumer world
      (fun _ left after => Between d frames posted (index + 1) left after ∧
        after.events = world.events)
      fun _ left after => Between d frames posted (index + 1) left after ∧
        after.events = world.events := by
  obtain ⟨⟨published, acked, carries, tells⟩, ⟨lastSeen, consuming⟩, _⟩ := between
  apply (Consumer.acknowledge_meets consuming carries).mono
  · rintro _ left after ⟨numbered, consuming, quiet, carries⟩
    exact ⟨⟨⟨_, _, carries, tells⟩, ⟨_, consuming⟩, numbered.trans named⟩, quiet⟩
  · rintro _ left after ⟨numbered, consuming, quiet, carries, _⟩
    exact ⟨⟨⟨_, _, carries, tells⟩, ⟨_, consuming⟩, numbered.trans named⟩, quiet⟩

/-- The state that a whole call of the application's end leaves, also one that failed. -/
def Taken (d : Descriptor) (frames : List QueuedFrame) (posted : Nat) (consumer : Consumer)
    (world : World) : Prop :=
  ∃ further, further ≤ posted ∧ Between d frames posted further consumer world ∧
    (deliveries world.events).Sublist ((frames.map QueuedFrame.payload).take further)

theorem Between.process (between : Between d frames posted taken consumer world)
    (upto : taken ≤ posted)
    (before : (deliveries world.events).Sublist ((frames.map QueuedFrame.payload).take taken)) :
    Consumer.process.Meets faults consumer world (fun _ => Taken d frames posted)
      fun _ => Taken d frames posted := by
  rw [Consumer.process_eq]
  refine Action.Meets.bind _ (between.poll.mono (fun _ _ _ polled => polled) ?_) ?_
  · rintro fault left after ⟨between, quiet⟩
    exact ⟨taken, upto, between, quiet ▸ before⟩
  rintro polled consumer world ⟨between, quiet, found⟩
  rw [← quiet] at before
  cases polled with
  | none => exact ⟨taken, upto, between, before⟩
  | some message =>
    obtain ⟨index, rfl, carried⟩ := found message rfl
    apply Action.Meets.bind _ (between.hand.mono (fun _ _ _ handed => handed) fun _ _ _ =>
      False.elim)
    rintro _ consumer world ⟨between, handed⟩
    have delivered := carried.handed upto before
    rw [← handed] at delivered
    refine Action.Meets.bind _ ((between.acknowledge carried.number).mono
      (fun _ _ _ ended => ended) ?_) ?_
    · rintro fault left after ⟨between, quiet⟩
      exact ⟨index + 1, Nat.le_refl _, between, quiet ▸ delivered⟩
    · rintro _ left after ⟨between, quiet⟩
      exact ⟨index + 1, Nat.le_refl _, between, quiet ▸ delivered⟩

theorem act_ends {α : Type} {action : Action Host Consumer α} {ok : α → Consumer → World → Prop}
    {failed : Fault → Consumer → World → Prop} (surroundings : Surroundings)
    (meets : action.Meets surroundings.Faulty system.consumer system.world ok failed) :
    ∃ result consumer world, system.act surroundings action =
      (result, { system with consumer, world }) ∧ Action.Ended ok failed (result, consumer) world :=
  ⟨_, _, _, rfl, meets.run surroundings⟩

theorem consume_keeps (surroundings : Surroundings) (idle : system.stage = .idle)
    (sound : system.Sound d settled posted taken) :
    ∃ taken, (system.act surroundings Consumer.process).2.Sound d settled posted taken := by
  obtain ⟨world, producer, consumer, stage, accepted⟩ := system
  obtain rfl : stage = .idle := idle
  obtain ⟨result, consumer, world, acted, ended⟩ :=
    act_ends surroundings (sound.between.process sound.upto sound.stage)
  have left : Taken d accepted posted consumer world := by
    cases result <;> exact ended
  obtain ⟨further, upto, between, delivered⟩ := left
  rw [acted]
  exact ⟨further, sound.producer, between, upto, delivered⟩

theorem poll_keeps (surroundings : Surroundings) (idle : system.stage = .idle)
    (sound : system.Sound d settled posted taken) :
    (system.step surroundings .poll).Sound d settled posted taken := by
  obtain ⟨old, producer, consumer, stage, accepted⟩ := system
  obtain rfl : stage = .idle := idle
  obtain ⟨result, consumer, world, acted, ended⟩ := act_ends surroundings sound.between.poll
  change System.Sound d (match System.act surroundings _ Consumer.poll with
    | (.ok (some message), system) => { system with stage := .polled message }
    | (_, system) => system) settled posted taken
  rw [acted]
  have before := sound.stage
  have still (quiet : world.events = old.events) :
      Stage.Sound accepted (deliveries world.events) posted taken .idle := quiet ▸ before
  rcases result with fault | _ | message
  · obtain ⟨between, quiet⟩ := ended
    exact ⟨sound.producer, between, sound.upto, still quiet⟩
  · obtain ⟨between, quiet, _⟩ := ended
    exact ⟨sound.producer, between, sound.upto, still quiet⟩
  · obtain ⟨between, quiet, found⟩ := ended
    obtain ⟨index, rfl, carried⟩ := found message rfl
    exact ⟨sound.producer, between, sound.upto, still quiet, index, Nat.lt_succ_self _, sound.upto,
      carried⟩

theorem hand_keeps {message : Channel.Message} (surroundings : Surroundings)
    (polled : system.stage = .polled message) (sound : system.Sound d settled posted taken) :
    (system.step surroundings .hand).Sound d settled posted taken := by
  obtain ⟨old, producer, consumer, stage, accepted⟩ := system
  obtain rfl : stage = .polled message := polled
  obtain ⟨before, index, inside, onward, carried⟩ := sound.stage
  obtain ⟨result, consumer, world, acted, ended⟩ := act_ends surroundings sound.between.hand
  change System.Sound d { (System.act surroundings _ (Consumer.hand message)).2 with
    stage := .handed message } settled posted taken
  rw [acted]
  rcases result with fault | _
  · exact ended.elim
  · obtain ⟨between, handed⟩ := ended
    have delivered : (deliveries world.events).Sublist _ :=
      handed ▸ carried.handed onward before
    exact ⟨sound.producer, between, sound.upto, index, inside, onward, carried.number, delivered⟩

theorem acknowledge_keeps {message : Channel.Message} (surroundings : Surroundings)
    (handed : system.stage = .handed message) (sound : system.Sound d settled posted taken) :
    ∃ taken, (system.step surroundings .acknowledge).Sound d settled posted taken := by
  obtain ⟨old, producer, consumer, stage, accepted⟩ := system
  obtain rfl : stage = .handed message := handed
  obtain ⟨index, inside, onward, named, delivered⟩ := sound.stage
  obtain ⟨result, consumer, world, acted, ended⟩ :=
    act_ends surroundings (sound.between.acknowledge named)
  have left : Between d accepted posted (index + 1) consumer world ∧ world.events = old.events := by
    cases result <;> exact ended
  obtain ⟨between, quiet⟩ := left
  change ∃ taken, System.Sound d { (System.act surroundings _ (Consumer.acknowledge message)).2 with
    stage := .idle } settled posted taken
  rw [acted]
  have delivered : (deliveries world.events).Sublist
      ((accepted.map QueuedFrame.payload).take (index + 1)) := by
    rw [quiet]
    exact delivered
  exact ⟨index + 1, sound.producer, between, inside, delivered⟩

theorem call_keeps (surroundings : Surroundings) (call : Call)
    (sound : system.Sound d settled posted taken) :
    ∃ settled posted taken, (system.call surroundings call).Sound d settled posted taken := by
  cases call with
  | accept arrival => exact ⟨_, _, _, accept_keeps arrival sound⟩
  | process =>
    obtain ⟨settled, posted, sound⟩ := process_keeps surroundings sound
    exact ⟨_, _, _, sound⟩
  | tick => exact ⟨_, _, _, tick_keeps surroundings sound⟩
  | consume =>
    cases stage : system.stage with
    | idle =>
      obtain ⟨taken, sound⟩ := consume_keeps surroundings stage sound
      simpa only [System.call, stage] using ⟨_, _, _, sound⟩
    | _ => simpa only [System.call, stage] using ⟨_, _, _, sound⟩

theorem step_keeps (surroundings : Surroundings) (turn : Turn)
    (sound : system.Sound d settled posted taken) :
    ∃ settled posted taken, (system.step surroundings turn).Sound d settled posted taken := by
  cases turn with
  | call call => exact call_keeps surroundings call sound
  | poll =>
    cases stage : system.stage with
    | idle => exact ⟨_, _, _, poll_keeps surroundings stage sound⟩
    | _ => simpa only [System.step, stage] using ⟨_, _, _, sound⟩
  | hand =>
    cases stage : system.stage with
    | polled message => exact ⟨_, _, _, hand_keeps surroundings stage sound⟩
    | _ => simpa only [System.step, stage] using ⟨_, _, _, sound⟩
  | acknowledge =>
    cases stage : system.stage with
    | handed message =>
      obtain ⟨taken, sound⟩ := acknowledge_keeps surroundings stage sound
      exact ⟨_, _, _, sound⟩
    | _ => simpa only [System.step, stage] using ⟨_, _, _, sound⟩

theorem after_keeps (surroundings : Surroundings) (turns : List Turn)
    (sound : system.Sound d settled posted taken) :
    ∃ settled posted taken, (system.after surroundings turns).Sound d settled posted taken := by
  induction turns generalizing system settled posted taken with
  | nil => exact ⟨_, _, _, sound⟩
  | cons turn rest ih =>
    obtain ⟨settled, posted, taken, sound⟩ := step_keeps surroundings turn sound
    exact ih sound

/-- The ends before anything went from one to the other. -/
structure System.Fresh (d : Descriptor) (system : System) : Prop where
  producer : Producer.Sound d [] 0 0 system.producer
  carries : d.Carries system.world.memory [] 0
  consuming : system.consumer.receiver.buffer.Consumes d 0
  numbered : system.consumer.receiver.delivered = number 0
  stage : system.stage = .idle
  accepted : system.accepted = []
  delivered : system.delivered = []

theorem setUp_fresh {owner : Role} {channel : UInt8} {ackTimeout : Nat} {pool : TimerPool}
    {memory : SharedMemory} (made : System.setUp owner d channel ackTimeout pool memory = .ok system) :
    system.Fresh d := by
  unfold System.setUp at made
  split at made
  · contradiction
  rename_i producing consuming after connected
  obtain ⟨produces, consumes, shows⟩ := TripleBuffer.connected_shows connected
  split at made
  · rename_i producer consumer ended attached
    have receiver : Consumer.new consuming = .ok ⟨⟨consuming, .none⟩⟩ := by
      simp only [Consumer.new, Channel.Receiver.new, if_pos consumes.role]
      rfl
    rw [receiver] at attached
    cases attached
    cases made
    exact ⟨Producer.new_sound produces ended, ⟨_, _, shows⟩, consumes, rfl, rfl, rfl, rfl⟩
  · contradiction
  · contradiction

theorem System.Fresh.sound (fresh : system.Fresh d) : system.Sound d 0 0 0 where
  producer := fresh.accepted.symm ▸ fresh.producer
  between := ⟨⟨[], 0, fresh.carries, nofun⟩, ⟨0, fresh.consuming⟩, fresh.numbered⟩
  upto := Nat.le_refl _
  stage := by
    rw [fresh.stage, fresh.delivered]
    exact List.nil_sublist _

theorem Stage.Sound.sublist {stage : Stage} (sound : stage.Sound frames delivered posted taken) :
    delivered.Sublist (frames.map QueuedFrame.payload) := by
  cases stage with
  | idle => exact sound.trans (List.take_sublist _ _)
  | polled message => exact sound.1.trans (List.take_sublist _ _)
  | handed message =>
    obtain ⟨index, _, _, _, delivered⟩ := sound
    exact delivered.trans (List.take_sublist _ _)

/-- The application is given the frames that were accepted, each at most once and in order. -/
theorem delivered_sublist_accepted {owner : Role} {channel : UInt8} {ackTimeout : Nat}
    {pool : TimerPool} {memory : SharedMemory}
    (made : System.setUp owner d channel ackTimeout pool memory = .ok system)
    (surroundings : Surroundings) (turns : List Turn) :
    (system.after surroundings turns).delivered.Sublist
      ((system.after surroundings turns).accepted.map QueuedFrame.payload) := by
  obtain ⟨_, _, _, sound⟩ := after_keeps surroundings turns (setUp_fresh made).sound
  exact sound.stage.sublist

/-- A post that fails, a frame written again between a poll and its acknowledge, and the frame taken
last once more on the network's request: each frame is delivered once. -/
theorem delivered_sublist_accepted_reposted :
    let surroundings : Surroundings := ⟨(· == 5), fun _ => Surroundings.plainAnswer⟩
    let turns : List Turn := [.call (.accept ⟨1, false, [10, 11]⟩), .call .process, .call .process,
      .poll, .call .tick, .call .process, .hand, .acknowledge, .call .consume, .call .process,
      .call (.accept ⟨2, false, [20]⟩), .call (.accept ⟨1, true, []⟩), .call .process, .call .consume,
      .call .process, .call .process, .call .consume]
    ∃ system, System.setUp .producer ⟨.ssdoReceive, 0, 16⟩ 0 1 .empty (.zeroed 0 25) = .ok system ∧
      (system.after surroundings turns).delivered = [[10, 11], [20]] ∧
      (system.after surroundings turns).delivered.Sublist
        ((system.after surroundings turns).accepted.map QueuedFrame.payload) :=
  ⟨_, rfl, by decide +kernel, @delivered_sublist_accepted ⟨.ssdoReceive, 0, 16⟩ _ .producer 0 1 .empty
    (.zeroed 0 25) rfl _ _⟩

end NodeLink.Ssdo.Inbound
