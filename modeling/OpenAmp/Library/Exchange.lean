import OpenAmp.Library.BoundedChannel
import OpenAmp.Library.Run

/-!
# Requests and answers over bounded channels

A client sends requests, and a server answers them one after the other. A request keeps its room until
the server has answered it, and an answer until the client has handled it. Each side sleeps until the
other notifies it of a message; giving room back notifies nobody. If the client's state is known for
each number of requests sent and of answers received, then every run goes through these states, comes to
an end, and cannot get stuck before.
-/

namespace Exchange

open BoundedChannel

variable {σ μ : Type*}

/-- What a client does next. A send that finds no room fails; one that only tries is followed by a poll
then. -/
inductive Next (σ μ : Type*) where
  | send (msg : μ) (next failed : σ)
  | trySend (msg : μ) (next : σ)
  | poll
  | done

/-- A client: what it does next, what a message changes, and how it goes on when it has polled. -/
structure Client (σ μ : Type*) where
  next : σ → Next σ μ
  receive : σ → μ → σ
  polled : σ → σ

/-- Where a client stands: between its calls, about to notify the server of a request, asleep in a poll,
or awake in a poll, with an answer in its hands or not. -/
inductive Phase where
  | running
  | notifying
  | waiting
  | polling
  | handling
deriving DecidableEq, Repr

/-- Where a server stands: asleep, between two requests, or with a request in its hands that it has an
answer for, has posted the answer to, or is done with. -/
inductive Server (μ : Type*) where
  | waiting
  | idle
  | replying (msg : μ)
  | notifying
  | returning

structure State (σ μ : Type*) where
  client : σ
  phase : Phase
  server : Server μ
  requests : Channel μ
  answers : Channel μ
  -- a notification that the client, or the server, has not heard
  notified : Bool
  serverNotified : Bool
  received : List μ
  stopped : Bool

def State.init (client : σ) : State σ μ :=
  ⟨client, .running, .waiting, .empty, .empty, false, false, [], false⟩

/-- The client is between its calls. -/
def State.advance (client : Client σ μ) (room : Nat) (s : State σ μ) : Option (State σ μ) :=
  match client.next s.client with
  | .send msg next failed =>
      match s.requests.send room msg with
      | some requests => some { s with client := next, phase := .notifying, requests }
      | none => some { s with client := failed }
  | .trySend msg next =>
      match s.requests.send room msg with
      | some requests => some { s with client := next, phase := .notifying, requests }
      | none => some { s with phase := .waiting }
  | .poll => some { s with phase := .waiting }
  | .done => none

/-- A poll handles all answers there are, and is left when there is none. -/
def State.poll (client : Client σ μ) (s : State σ μ) : State σ μ :=
  match s.answers.take with
  | some (msg, answers) =>
      { s with
        client := client.receive s.client msg
        phase := .handling
        answers
        received := s.received ++ [msg] }
  | none => { s with client := client.polled s.client, phase := .running }

def State.clientStep (client : Client σ μ) (room : Nat) (s : State σ μ) : Option (State σ μ) :=
  match s.phase with
  | .running => s.advance client room
  | .notifying => some { s with phase := .running, serverNotified := true }
  | .waiting => if s.notified then some { s with phase := .polling, notified := false } else none
  | .polling => some (s.poll client)
  | .handling => some { s with phase := .polling, answers := s.answers.giveBack }

/-- A server that looks for a request. One without an answer stops it. -/
def State.look (serve : μ → Option μ) (s : State σ μ) : State σ μ :=
  match s.requests.take with
  | some (msg, requests) =>
      match serve msg with
      | some reply => { s with requests, server := .replying reply }
      | none => { s with requests, server := .returning, stopped := true }
  | none => { s with server := .waiting }

def State.serverStep (serve : μ → Option μ) (room : Nat) (s : State σ μ) : Option (State σ μ) :=
  match s.server with
  | .waiting =>
      if s.serverNotified && !s.stopped then
        some { s with server := .idle, serverNotified := false }
      else
        none
  | .idle => some (s.look serve)
  | .replying msg =>
      (s.answers.send room msg).map fun answers => { s with answers, server := .notifying }
  | .notifying => some { s with server := .returning, notified := true }
  | .returning => some { s with server := .idle, requests := s.requests.giveBack }

inductive Action where
  | client
  | server

def step (client : Client σ μ) (serve : μ → Option μ) (requests answers : Nat) (s : State σ μ) :
    Action → Option (State σ μ)
  | .client => s.clientStep client requests
  | .server => s.serverStep serve answers

def State.Finished (client : Client σ μ) (s : State σ μ) : Prop :=
  s.phase = .running ∧ client.next s.client = .done

/-! ### Scripts -/

def queue (f : Nat → μ) (first last : Nat) : List μ := (List.range' first (last - first)).map f

section Queue

variable {f : Nat → μ} {first last : Nat}

theorem queue_self : queue f first first = [] := by
  rw [queue, Nat.sub_self]
  rfl

@[simp] theorem length_queue : (queue f first last).length = last - first := by
  rw [queue, List.length_map, List.length_range']

theorem queue_succ (h : first ≤ last) : queue f first (last + 1) = queue f first last ++ [f last] := by
  rw [queue, Nat.succ_sub h, List.range'_concat, List.map_append, ← queue, Nat.one_mul,
    Nat.add_sub_cancel' h]
  rfl

theorem queue_cons (h : first < last) : queue f first last = f first :: queue f (first + 1) last := by
  obtain ⟨count, hcount⟩ := Nat.exists_eq_add_of_lt h
  rw [queue, queue, hcount, show first + count + 1 - first = count + 1 by omega,
    show first + count + 1 - (first + 1) = count by omega]
  rfl

end Queue

/-- What a client does in the states it has, of a number of requests sent and of answers received. -/
inductive Acts (request : Nat → μ) (idle : Nat → Nat → σ) (due : Nat → Nat → Prop) (total : Nat)
    (sent received : Nat) : Next σ μ → Prop where
  | send (hlt : sent < total) (hall : received = sent) (hdue : due (sent + 1) received) (failed : σ) :
      Acts request idle due total sent received
        (.send (request sent) (idle (sent + 1) received) failed)
  | trySend (hlt : sent < total) (hdue : due (sent + 1) received) :
      Acts request idle due total sent received (.trySend (request sent) (idle (sent + 1) received))
  | poll (hlt : received < sent) : Acts request idle due total sent received .poll
  | done (hsent : sent = total) (hreceived : received = total) :
      Acts request idle due total sent received .done

/-- The states of a client by what it has sent and received, outside of a poll and inside, as far as
these numbers come together. A client whose sends fail without room has received all its answers. -/
structure Script (client : Client σ μ) (serve : μ → Option μ) (total : Nat) where
  request : Nat → μ
  reply : Nat → μ
  due : Nat → Nat → Prop
  idle : Nat → Nat → σ
  busy : Nat → Nat → σ
  due_start : due 0 0
  due_receive : ∀ {sent received}, due sent received → received < sent → due sent (received + 1)
  le_total : ∀ {sent received}, due sent received → sent ≤ total
  serves : ∀ {k}, k < total → serve (request k) = some (reply k)
  acts : ∀ {sent received}, due sent received → received ≤ sent →
    Acts request idle due total sent received (client.next (idle sent received))
  enters : ∀ {sent received}, due sent received → received < sent →
    idle sent received = busy sent received
  receives : ∀ {sent received}, due sent received → received < sent →
    client.receive (busy sent received) (reply received) = busy sent (received + 1)
  leaves : ∀ {sent received}, due sent received → received ≤ sent → 0 < sent →
    client.polled (busy sent received) = idle sent received

structure Counts where
  sent : Nat
  taken : Nat
  answered : Nat
  received : Nat

/-- The client is in a poll, asleep or awake. -/
def Phase.inPoll : Phase → Bool
  | .running | .notifying => false
  | .waiting | .polling | .handling => true

/-- The messages in the hands of a client. -/
def Phase.hands : Phase → Nat
  | .handling => 1
  | .running | .notifying | .waiting | .polling => 0

/-- The requests in the hands of a server. -/
def Server.hands : Server μ → Nat
  | .waiting | .idle => 0
  | .replying _ | .notifying | .returning => 1

/-- A request that has been taken and not answered is the one in the hands of the server. -/
def Server.At (reply : Nat → μ) (n : Counts) : Server μ → Prop
  | .replying msg => n.taken = n.answered + 1 ∧ msg = reply n.answered
  | .waiting | .idle | .notifying | .returning => n.taken = n.answered

/-- What is left to do between two notifications: a poll that is entered is woken up by a notification
and left again. -/
def Phase.left : Phase → Nat
  | .running => 1
  | .notifying => 4
  | .waiting => 0
  | .polling => 2
  | .handling => 3

def Server.left : Server μ → Nat
  | .waiting => 0
  | .idle => 1
  | .replying _ => 2
  | .notifying => 6
  | .returning => 2

/-- What is left to do: thirteen steps for each request. -/
def State.left (total : Nat) (s : State σ μ) (n : Counts) : Nat :=
  4 * (total - n.sent) + 2 * (total - n.taken) + 5 * (total - n.answered) + 2 * (total - n.received) +
    s.phase.left + s.server.left + 3 * s.notified.toNat + 2 * s.serverNotified.toNat

section Runs

variable {client : Client σ μ} {serve : μ → Option μ} {total requests answers : Nat}

structure Script.At (script : Script client serve total) (s : State σ μ) (n : Counts) : Prop where
  due : script.due n.sent n.received
  received_le : n.received ≤ n.answered
  answered_le : n.answered ≤ n.taken
  taken_le : n.taken ≤ n.sent
  client : s.client =
    if s.phase.inPoll then script.busy n.sent n.received else script.idle n.sent n.received
  started : s.phase.inPoll = true → 0 < n.sent
  pending : s.phase = .waiting → n.received < n.sent
  server : s.server.At script.reply n
  requests : s.requests = ⟨0, queue script.request n.taken n.sent, s.server.hands⟩
  answers : s.answers = ⟨0, queue script.reply n.received n.answered, s.phase.hands⟩
  -- a message that its receiver has not looked for yet will wake it up
  heard : n.received < n.answered →
    s.phase = .polling ∨ s.phase = .handling ∨ s.notified = true ∨ s.server = .notifying
  serverHeard : n.taken < n.sent →
    s.server ≠ .waiting ∨ s.serverNotified = true ∨ s.phase = .notifying
  received : s.received = queue script.reply 0 n.received
  running : s.stopped = false

variable {script : Script client serve total} {s s' : State σ μ} {n : Counts}

theorem Script.at_init (script : Script client serve total) :
    script.At (State.init (script.idle 0 0)) ⟨0, 0, 0, 0⟩ where
  due := script.due_start
  received_le := le_rfl
  answered_le := le_rfl
  taken_le := le_rfl
  client := rfl
  started := nofun
  pending := nofun
  server := rfl
  requests := rfl
  answers := rfl
  heard := fun h => absurd h (Nat.lt_irrefl 0)
  serverHeard := fun h => absurd h (Nat.lt_irrefl 0)
  received := rfl
  running := rfl

theorem Script.At.received_le_sent (h : script.At s n) : n.received ≤ n.sent :=
  Nat.le_trans h.received_le (Nat.le_trans h.answered_le h.taken_le)

theorem Script.At.sent_le (h : script.At s n) : n.sent ≤ total :=
  script.le_total h.due

/-- A poll that has been entered is still to be woken up. -/
theorem Script.At.left_pos (h : script.At s n) : 1 ≤ s.left total n := by
  have hsent := h.sent_le
  unfold State.left
  cases hphase : s.phase with
  | waiting =>
      have hpending := h.pending hphase
      omega
  | running | notifying | polling | handling =>
      simp only [Phase.left]
      omega

/-- A step goes through the script and leaves less to do. -/
def Script.Moves (script : Script client serve total) (s s' : State σ μ) (n : Counts) : Prop :=
  ∃ n', script.At s' n' ∧ s'.left total n' < s.left total n

/-! ### The client -/

theorem Server.hands_le (server : Server μ) : server.hands ≤ 1 := by
  cases server with
  | waiting | idle => exact Nat.zero_le 1
  | replying | notifying | returning => exact le_rfl

theorem Script.At.requests_inUse (h : script.At s n) :
    s.requests.inUse = n.sent - n.taken + s.server.hands := by
  rw [h.requests, Channel.inUse, length_queue, Nat.zero_add]

theorem Script.At.answers_inUse (h : script.At s n) :
    s.answers.inUse = n.answered - n.received + s.phase.hands := by
  rw [h.answers, Channel.inUse, length_queue, Nat.zero_add]

/-- A request that has found room. -/
theorem Script.At.post (h : script.At s n) (hphase : s.phase = .running) (hlt : n.sent < total)
    (hdue : script.due (n.sent + 1) n.received) :
    script.Moves s
      { s with
        client := script.idle (n.sent + 1) n.received
        phase := .notifying
        requests := { s.requests with queue := s.requests.queue ++ [script.request n.sent] } } n := by
  have hanswers := h.answers
  rw [hphase] at hanswers
  refine ⟨{ n with sent := n.sent + 1 }, { h with
    due := hdue
    taken_le := Nat.le_succ_of_le h.taken_le
    client := rfl
    started := nofun
    pending := nofun
    requests := ?_
    answers := hanswers
    heard := fun hlt => ?_
    serverHeard := fun _ => .inr (.inr rfl) }, ?_⟩
  · simp only [h.requests, queue_succ h.taken_le]
  · exact .inr (.inr ((h.heard hlt).resolve_left (by simp [hphase])
      |>.resolve_left (by simp [hphase])))
  · simp only [State.left, hphase, Phase.left]
    omega

/-- The client goes to sleep while an answer is still to come. -/
theorem Script.At.wait (h : script.At s n) (hphase : s.phase = .running) (hlt : n.received < n.sent) :
    script.Moves s { s with phase := .waiting } n := by
  have hclient := h.client
  have hanswers := h.answers
  rw [hphase] at hclient hanswers
  refine ⟨n, { h with
    client := hclient.trans (script.enters h.due hlt)
    started := fun _ => Nat.zero_lt_of_lt hlt
    pending := fun _ => hlt
    answers := hanswers
    heard := fun hlt => ?_
    serverHeard := fun hlt => ?_ }, ?_⟩
  · exact .inr (.inr ((h.heard hlt).resolve_left (by simp [hphase])
      |>.resolve_left (by simp [hphase])))
  · exact (h.serverHeard hlt).imp id fun hor => .inl (hor.resolve_right (by simp [hphase]))
  · simp only [State.left, hphase, Phase.left]
    omega

/-- A client whose sends fail without room has it: two requests never take more than two places. -/
theorem Script.At.advance (h : script.At s n) (hrequests : 2 ≤ requests) (hphase : s.phase = .running)
    (hstep : s.advance client requests = some s') : script.Moves s s' n := by
  have hclient := h.client
  rw [hphase] at hclient
  have hacts := script.acts h.due h.received_le_sent
  rw [← hclient.trans (if_neg Bool.false_ne_true)] at hacts
  have hinUse := h.requests_inUse
  have hhands := s.server.hands_le
  have hreceived := h.received_le
  have hanswered := h.answered_le
  unfold State.advance at hstep
  cases hnext : client.next s.client with
  | send msg next failed =>
      rw [hnext] at hstep hacts
      cases hacts with
      | send hlt hall hdue =>
          have hroom : s.requests.inUse < requests := by omega
          dsimp only at hstep
          rw [Channel.send_of_lt hroom] at hstep
          obtain rfl := Option.some.inj hstep
          exact h.post hphase hlt hdue
  | trySend msg next =>
      rw [hnext] at hstep hacts
      cases hacts with
      | trySend hlt hdue =>
          dsimp only at hstep
          obtain hroom | hfull := Nat.lt_or_ge s.requests.inUse requests
          · rw [Channel.send_of_lt hroom] at hstep
            obtain rfl := Option.some.inj hstep
            exact h.post hphase hlt hdue
          · rw [Channel.send_of_le hfull] at hstep
            obtain rfl := Option.some.inj hstep
            exact h.wait hphase (by omega)
  | poll =>
      rw [hnext] at hstep hacts
      obtain rfl := Option.some.inj hstep
      cases hacts with
      | poll hlt => exact h.wait hphase hlt
  | done =>
      rw [hnext] at hstep
      cases hstep

theorem Script.At.notify (h : script.At s n) (hphase : s.phase = .notifying) :
    script.Moves s { s with phase := .running, serverNotified := true } n := by
  have hclient := h.client
  have hanswers := h.answers
  rw [hphase] at hclient hanswers
  refine ⟨n, { h with
    client := hclient
    started := nofun
    pending := nofun
    answers := hanswers
    heard := fun hlt => ?_
    serverHeard := fun _ => .inr (.inl rfl) }, ?_⟩
  · exact .inr (.inr ((h.heard hlt).resolve_left (by simp [hphase])
      |>.resolve_left (by simp [hphase])))
  · simp only [State.left, hphase, Phase.left, Bool.toNat_true]
    omega

theorem Script.At.wake (h : script.At s n) (hphase : s.phase = .waiting) (hnotified : s.notified = true) :
    script.Moves s { s with phase := .polling, notified := false } n := by
  have hclient := h.client
  have hanswers := h.answers
  have hstarted := h.started
  rw [hphase] at hclient hanswers hstarted
  refine ⟨n, { h with
    client := hclient
    started := fun _ => hstarted rfl
    pending := nofun
    answers := hanswers
    heard := fun _ => .inl rfl
    serverHeard := fun hlt => ?_ }, ?_⟩
  · exact (h.serverHeard hlt).imp id fun hor => .inl (hor.resolve_right (by simp [hphase]))
  · simp only [State.left, hphase, hnotified, Phase.left, Bool.toNat_true, Bool.toNat_false]
    omega

theorem Script.At.poll (h : script.At s n) (hphase : s.phase = .polling) :
    script.Moves s (s.poll client) n := by
  have hclient := h.client
  have hanswers := h.answers
  have hstarted := h.started
  rw [hphase] at hclient hanswers hstarted
  have hserver (hlt : n.taken < n.sent) : s.server ≠ .waiting ∨ s.serverNotified = true :=
    (h.serverHeard hlt).imp id fun hor => hor.resolve_right (by simp [hphase])
  have hanswered := h.answered_le
  have htaken := h.taken_le
  have hsent := h.sent_le
  obtain hall | hlt := Nat.eq_or_lt_of_le h.received_le
  · rw [hall, queue_self] at hanswers
    rw [State.poll, Channel.take_of_nil (congrArg Channel.queue hanswers)]
    refine ⟨n, { h with
      client := ?_
      started := nofun
      pending := nofun
      answers := by rw [hall, queue_self]; exact hanswers
      heard := fun hlt => absurd hlt (by omega)
      serverHeard := fun hlt => (hserver hlt).imp id .inl }, ?_⟩
    · rw [hclient]
      exact script.leaves h.due h.received_le_sent (hstarted rfl)
    · simp only [State.left, hphase, Phase.left]
      omega
  · have hlt' : n.received < n.sent := by omega
    rw [queue_cons hlt] at hanswers
    rw [State.poll, Channel.take_of_cons (congrArg Channel.queue hanswers)]
    refine ⟨{ n with received := n.received + 1 }, { h with
      due := script.due_receive h.due hlt'
      received_le := hlt
      client := ?_
      started := fun _ => hstarted rfl
      pending := nofun
      answers := ?_
      heard := fun _ => .inr (.inl rfl)
      serverHeard := fun hlt => (hserver hlt).imp id .inl
      received := ?_ }, ?_⟩
    · rw [hclient]
      exact script.receives h.due hlt'
    · rw [hanswers]
      rfl
    · rw [h.received, queue_succ (Nat.zero_le _)]
    · simp only [State.left, hphase, Phase.left]
      omega

theorem Script.At.handled (h : script.At s n) (hphase : s.phase = .handling) :
    script.Moves s { s with phase := .polling, answers := s.answers.giveBack } n := by
  have hclient := h.client
  have hanswers := h.answers
  have hstarted := h.started
  rw [hphase] at hclient hanswers hstarted
  refine ⟨n, { h with
    client := hclient
    started := fun _ => hstarted rfl
    pending := nofun
    answers := ?_
    heard := fun _ => .inl rfl
    serverHeard := fun hlt => ?_ }, ?_⟩
  · rw [hanswers]
    rfl
  · exact (h.serverHeard hlt).imp id fun hor => .inl (hor.resolve_right (by simp [hphase]))
  · simp only [State.left, hphase, Phase.left]
    omega

theorem Script.At.clientStep (h : script.At s n) (hrequests : 2 ≤ requests)
    (hstep : s.clientStep client requests = some s') : script.Moves s s' n := by
  unfold State.clientStep at hstep
  cases hphase : s.phase with
  | running =>
      rw [hphase] at hstep
      exact h.advance hrequests hphase hstep
  | notifying =>
      rw [hphase] at hstep
      obtain rfl := Option.some.inj hstep
      exact h.notify hphase
  | waiting =>
      rw [hphase] at hstep
      dsimp only at hstep
      split_ifs at hstep with hnotified
      obtain rfl := Option.some.inj hstep
      exact h.wake hphase hnotified
  | polling =>
      rw [hphase] at hstep
      obtain rfl := Option.some.inj hstep
      exact h.poll hphase
  | handling =>
      rw [hphase] at hstep
      obtain rfl := Option.some.inj hstep
      exact h.handled hphase

/-! ### The server -/

theorem Script.At.serverWake (h : script.At s n) (hserver : s.server = .waiting)
    (hnotified : s.serverNotified = true) :
    script.Moves s { s with server := .idle, serverNotified := false } n := by
  have hat := h.server
  have hrequests := h.requests
  rw [hserver] at hat hrequests
  refine ⟨n, { h with
    server := hat
    requests := hrequests
    heard := fun hlt => ?_
    serverHeard := fun _ => .inl nofun }, ?_⟩
  · exact (h.heard hlt).imp id (.imp id fun hor => .inl (hor.resolve_right (by simp [hserver])))
  · simp only [State.left, hserver, hnotified, Server.left, Bool.toNat_true, Bool.toNat_false]
    omega

/-- The server takes the next request, and falls asleep if there is none. -/
theorem Script.At.look (h : script.At s n) (hserver : s.server = .idle) :
    script.Moves s (s.look serve) n := by
  have hat := h.server
  have hrequests := h.requests
  rw [hserver] at hat hrequests
  have hheard (hlt : n.received < n.answered) :
      s.phase = .polling ∨ s.phase = .handling ∨ s.notified = true :=
    (h.heard hlt).imp id (.imp id fun hor => hor.resolve_right (by simp [hserver]))
  have hsent := h.sent_le
  obtain hall | hlt := Nat.eq_or_lt_of_le h.taken_le
  · rw [hall, queue_self] at hrequests
    rw [State.look, Channel.take_of_nil (congrArg Channel.queue hrequests)]
    refine ⟨n, { h with
      server := hat
      requests := by rw [hall, queue_self]; exact hrequests
      heard := fun hlt => (hheard hlt).imp id (.imp id .inl)
      serverHeard := fun hlt => absurd hlt (by omega) }, ?_⟩
    simp only [State.left, hserver, Server.left]
    omega
  · rw [queue_cons hlt] at hrequests
    rw [State.look, Channel.take_of_cons (congrArg Channel.queue hrequests)]
    dsimp only
    rw [script.serves (Nat.lt_of_lt_of_le hlt hsent)]
    refine ⟨{ n with taken := n.taken + 1 }, { h with
      answered_le := Nat.le_succ_of_le h.answered_le
      taken_le := hlt
      server := ?_
      requests := ?_
      heard := fun hlt => (hheard hlt).imp id (.imp id .inl)
      serverHeard := fun _ => .inl nofun }, ?_⟩
    · exact ⟨congrArg Nat.succ hat, congrArg script.reply hat⟩
    · rw [hrequests]
      rfl
    · simp only [State.left, hserver, Server.left]
      omega

theorem Script.At.answer {msg : μ} (h : script.At s n) (hserver : s.server = .replying msg)
    (hroom : s.answers.inUse < answers) :
    ∃ channel, s.answers.send answers msg = some channel ∧
      script.Moves s { s with answers := channel, server := .notifying } n := by
  have hat := h.server
  have hrequests := h.requests
  rw [hserver] at hat hrequests
  obtain ⟨htaken, rfl⟩ := hat
  have hsent := h.sent_le
  have htaken_le := h.taken_le
  refine ⟨_, Channel.send_of_lt hroom, { n with answered := n.answered + 1 }, { h with
    received_le := Nat.le_succ_of_le h.received_le
    answered_le := Nat.le_of_eq htaken.symm
    server := htaken
    requests := hrequests
    answers := ?_
    heard := fun _ => .inr (.inr (.inr rfl))
    serverHeard := fun _ => .inl nofun }, ?_⟩
  · simp only [h.answers, queue_succ h.received_le]
  · simp only [State.left, hserver, Server.left]
    omega

theorem Script.At.serverNotify (h : script.At s n) (hserver : s.server = .notifying) :
    script.Moves s { s with server := .returning, notified := true } n := by
  have hat := h.server
  have hrequests := h.requests
  rw [hserver] at hat hrequests
  refine ⟨n, { h with
    server := hat
    requests := hrequests
    heard := fun _ => .inr (.inr (.inl rfl))
    serverHeard := fun _ => .inl nofun }, ?_⟩
  simp only [State.left, hserver, Server.left, Bool.toNat_true]
  omega

theorem Script.At.giveBack (h : script.At s n) (hserver : s.server = .returning) :
    script.Moves s { s with server := .idle, requests := s.requests.giveBack } n := by
  have hat := h.server
  have hrequests := h.requests
  rw [hserver] at hat hrequests
  refine ⟨n, { h with
    server := hat
    requests := by rw [hrequests]; rfl
    heard := fun hlt => ?_
    serverHeard := fun _ => .inl nofun }, ?_⟩
  · exact (h.heard hlt).imp id (.imp id fun hor => .inl (hor.resolve_right (by simp [hserver])))
  · simp only [State.left, hserver, Server.left]
    omega

theorem Script.At.serverStep (h : script.At s n)
    (hstep : s.serverStep serve answers = some s') : script.Moves s s' n := by
  unfold State.serverStep at hstep
  cases hserver : s.server with
  | waiting =>
      rw [hserver] at hstep
      dsimp only at hstep
      split_ifs at hstep with hwakes
      obtain rfl := Option.some.inj hstep
      exact h.serverWake hserver (Bool.and_eq_true_iff.mp hwakes).1
  | idle =>
      rw [hserver] at hstep
      obtain rfl := Option.some.inj hstep
      exact h.look hserver
  | replying msg =>
      rw [hserver] at hstep
      obtain hroom | hfull := Nat.lt_or_ge s.answers.inUse answers
      · obtain ⟨channel, hsend, hmoves⟩ := h.answer hserver hroom
        dsimp only at hstep
        rw [hsend] at hstep
        obtain rfl := Option.some.inj hstep
        exact hmoves
      · dsimp only at hstep
        rw [Channel.send_of_le hfull] at hstep
        cases hstep
  | notifying =>
      rw [hserver] at hstep
      obtain rfl := Option.some.inj hstep
      exact h.serverNotify hserver
  | returning =>
      rw [hserver] at hstep
      obtain rfl := Option.some.inj hstep
      exact h.giveBack hserver

/-! ### Runs -/

theorem Script.At.step (h : script.At s n) (hrequests : 2 ≤ requests) {action : Action}
    (hstep : Exchange.step client serve requests answers s action = some s') :
    script.Moves s s' n := by
  cases action with
  | client => exact h.clientStep hrequests hstep
  | server => exact h.serverStep hstep

/-- A run goes through the states of the script, and each of its steps leaves less to do. -/
theorem Script.At.exec (h : script.At s n) (hrequests : 2 ≤ requests) {actions : List Action}
    (hexec : Run.exec (Exchange.step client serve requests answers) s actions = some s') :
    ∃ n', script.At s' n' ∧ actions.length + s'.left total n' ≤ s.left total n := by
  induction actions generalizing s n with
  | nil =>
      obtain rfl := Option.some.inj hexec
      exact ⟨n, h, by rw [List.length_nil, Nat.zero_add]⟩
  | cons action actions ih =>
      simp only [Run.exec, List.foldlM_cons, Option.bind_eq_bind, Option.bind_eq_some_iff] at hexec
      obtain ⟨middle, hstep, hrest⟩ := hexec
      obtain ⟨n₁, hmiddle, hlt⟩ := h.step hrequests hstep
      obtain ⟨n', hend, hle⟩ := ih hmiddle hrest
      refine ⟨n', hend, ?_⟩
      rw [List.length_cons]
      omega

theorem Script.exec (script : Script client serve total) (hrequests : 2 ≤ requests)
    {actions : List Action} (hexec : Run.exec (Exchange.step client serve requests answers)
      (State.init (script.idle 0 0)) actions = some s) :
    ∃ n, script.At s n ∧ actions.length ≤ 13 * total := by
  obtain ⟨n, hat, hle⟩ := script.at_init.exec hrequests hexec
  refine ⟨n, hat, ?_⟩
  have hpos := hat.left_pos
  have hleft : (State.init (script.idle 0 0) : State σ μ).left total ⟨0, 0, 0, 0⟩ = 13 * total + 1 := by
    simp only [State.left, State.init, Phase.left, Server.left, Bool.toNat_false]
    omega
  omega

theorem Script.At.finished (h : script.At s n) (hfinished : s.Finished client) :
    n.received = total ∧ s.requests.queue = [] ∧ s.answers.queue = [] := by
  obtain ⟨hphase, hdone⟩ := hfinished
  have hclient := h.client
  rw [hphase] at hclient
  have hacts := script.acts h.due h.received_le_sent
  rw [← hclient.trans (if_neg Bool.false_ne_true), hdone] at hacts
  cases hacts with
  | done hsent hreceived =>
      have hle := h.received_le
      have hanswered := h.answered_le
      have htaken := h.taken_le
      refine ⟨hreceived, ?_, ?_⟩
      · rw [h.requests, show n.taken = n.sent by omega, queue_self]
      · rw [h.answers, show n.answered = n.received by omega, queue_self]

section Progress

theorem exists_clientStep (hfinished : ¬ s.Finished client)
    (hwakes : s.phase = .waiting → s.notified = true) :
    ∃ s', Exchange.step client serve requests answers s .client = some s' := by
  change ∃ s', s.clientStep client requests = some s'
  unfold State.clientStep
  cases hphase : s.phase with
  | running =>
      change ∃ s', s.advance client requests = some s'
      unfold State.advance
      cases hnext : client.next s.client with
      | send msg next failed =>
          dsimp only
          cases s.requests.send requests msg with
          | none => exact ⟨_, rfl⟩
          | some channel => exact ⟨_, rfl⟩
      | trySend msg next =>
          dsimp only
          cases s.requests.send requests msg with
          | none => exact ⟨_, rfl⟩
          | some channel => exact ⟨_, rfl⟩
      | poll => exact ⟨_, rfl⟩
      | done => exact absurd ⟨hphase, hnext⟩ hfinished
  | notifying | polling | handling => exact ⟨_, rfl⟩
  | waiting => exact ⟨_, if_pos (hwakes hphase)⟩

/-- While the client sleeps, nobody has told it of an answer. The server goes on: there is room for an
answer as none is under way. -/
theorem Script.At.exists_serverStep (h : script.At s n) (hanswers : 0 < answers)
    (hphase : s.phase = .waiting) (hnotified : ¬ s.notified = true) :
    ∃ s', Exchange.step client serve requests answers s .server = some s' := by
  have hpending := h.pending hphase
  have hreceived := h.received_le
  have hheard (hlt : n.received < n.answered) : s.server = .notifying := by
    have hor := h.heard hlt
    simpa [hphase, hnotified] using hor
  have hat := h.server
  change ∃ s', s.serverStep serve answers = some s'
  unfold State.serverStep
  cases hserver : s.server with
  | waiting =>
      rw [hserver] at hat hheard
      have hanswered : ¬ n.received < n.answered := fun hlt => nomatch hheard hlt
      have htaken : n.taken = n.answered := hat
      have hserverHeard := h.serverHeard (by omega)
      have hnotified : s.serverNotified = true := by simpa [hphase, hserver] using hserverHeard
      refine ⟨_, if_pos ?_⟩
      rw [hnotified, h.running]
      rfl
  | replying msg =>
      rw [hserver] at hheard
      have hanswered : ¬ n.received < n.answered := fun hlt => nomatch hheard hlt
      have hinUse := h.answers_inUse
      rw [hphase] at hinUse
      have hroom : s.answers.inUse < answers := by
        rw [hinUse, Nat.sub_eq_zero_of_le (not_lt.mp hanswered)]
        exact hanswers
      dsimp only
      rw [Channel.send_of_lt hroom]
      exact ⟨_, rfl⟩
  | idle | notifying | returning => exact ⟨_, rfl⟩

/-- A run ends with all answers received, or it can go on, and not for ever. -/
theorem Script.completes (script : Script client serve total) (hrequests : 2 ≤ requests)
    (hanswers : 0 < answers) {actions : List Action}
    (hexec : Run.exec (Exchange.step client serve requests answers)
      (State.init (script.idle 0 0)) actions = some s) :
    (∃ n, script.At s n) ∧ actions.length ≤ 13 * total ∧
      ((s.Finished client ∧ s.received = queue script.reply 0 total ∧ s.requests.queue = [] ∧
          s.answers.queue = []) ∨
        ∃ action s', Exchange.step client serve requests answers s action = some s') := by
  obtain ⟨n, hat, hlen⟩ := script.exec hrequests hexec
  refine ⟨⟨n, hat⟩, hlen, ?_⟩
  by_cases hfinished : s.Finished client
  · obtain ⟨hall, hempty⟩ := hat.finished hfinished
    refine .inl ⟨hfinished, ?_, hempty⟩
    rw [hat.received, hall]
  · by_cases hsleeps : s.phase = .waiting ∧ ¬ s.notified = true
    · exact .inr ⟨.server, hat.exists_serverStep hanswers hsleeps.1 hsleeps.2⟩
    · refine .inr ⟨.client, exists_clientStep hfinished fun hphase => ?_⟩
      by_contra hnotified
      exact hsleeps ⟨hphase, hnotified⟩

end Progress

end Runs

/-! ### One request at a time -/

/-- A client that sends a request and waits for the answer, a number of times: the states it has between
the rounds, while it waits, and when it has the answer. -/
structure Rounds (client : Client σ μ) (serve : μ → Option μ) (total : Nat) where
  request : Nat → μ
  reply : Nat → μ
  ready : Nat → σ
  waiting : Nat → σ
  back : Nat → σ
  failed : Nat → σ
  serves : ∀ {k}, k < total → serve (request k) = some (reply k)
  sends : ∀ {k}, k < total → client.next (ready k) = .send (request k) (waiting k) (failed k)
  ends : client.next (ready total) = .done
  waits : ∀ {k}, k < total → client.next (waiting k) = .poll
  receives : ∀ {k}, k < total → client.receive (waiting k) (reply k) = back (k + 1)
  goes_on : ∀ {k}, k < total → client.polled (back (k + 1)) = ready (k + 1)
  stays : ∀ {k}, k < total → client.polled (waiting k) = waiting k

section Rounds

variable {client : Client σ μ} {serve : μ → Option μ} {total : Nat}

def Rounds.script (rounds : Rounds client serve total) : Script client serve total where
  request := rounds.request
  reply := rounds.reply
  due sent received := (sent = received ∨ sent = received + 1) ∧ sent ≤ total
  idle sent received := if sent = received then rounds.ready received else rounds.waiting received
  busy sent received := if sent = received then rounds.back received else rounds.waiting received
  due_start := ⟨.inl rfl, Nat.zero_le _⟩
  due_receive := fun hdue hlt => ⟨.inl (hdue.1.resolve_left (Nat.ne_of_gt hlt)), hdue.2⟩
  le_total := fun hdue => hdue.2
  serves := rounds.serves
  acts := by
    rintro sent received ⟨rfl | rfl, hle⟩ -
    · rw [if_pos rfl]
      obtain hlt | rfl := Nat.lt_or_eq_of_le hle
      · rw [rounds.sends hlt]
        have hwaits : rounds.waiting sent =
            if sent + 1 = sent then rounds.ready sent else rounds.waiting sent :=
          (if_neg (Nat.succ_ne_self sent)).symm
        rw [hwaits]
        exact .send hlt rfl ⟨.inr rfl, hlt⟩ _
      · rw [rounds.ends]
        exact .done rfl rfl
    · rw [if_neg (Nat.succ_ne_self received), rounds.waits hle]
      exact .poll (Nat.lt_succ_self received)
  enters := fun _ hlt => (if_neg (Nat.ne_of_gt hlt)).trans (if_neg (Nat.ne_of_gt hlt)).symm
  receives := by
    rintro sent received ⟨rfl | rfl, hle⟩ hlt
    · exact absurd hlt (Nat.lt_irrefl _)
    · rw [if_neg (Nat.succ_ne_self received), if_pos rfl]
      exact rounds.receives hle
  leaves := by
    rintro sent received ⟨rfl | rfl, hle⟩ - hpos
    · obtain ⟨k, rfl⟩ := Nat.exists_eq_succ_of_ne_zero (Nat.ne_of_gt hpos)
      rw [if_pos rfl, if_pos rfl]
      exact rounds.goes_on hle
    · rw [if_neg (Nat.succ_ne_self received), if_neg (Nat.succ_ne_self received)]
      exact rounds.stays hle

end Rounds

end Exchange
