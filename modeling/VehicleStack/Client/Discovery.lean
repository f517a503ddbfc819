import VehicleStack.Ecu.SomeIpSd

/-!
# How the client finds the ECU

The client looks for services by datagrams to a multicast group. `Ifx_Lwip_init` has the ECU join
that group, and goes on if that fails; `mcast_to_bcast.py` is a relay for an ECU that does not
hear the group. What the relay receives on the port of the service discovery it broadcasts, unless
it comes from its own address, which is written down in it. The ECU answers who asked, that is the
client or the relay, and the relay broadcasts its answer. Every ten seconds the ECU broadcasts an
offer of its own accord.

A broadcast reaches the machine that sends it, too. So it depends on the addresses whether there
is an end to that, in whatever order the datagrams arrive, and the main result is
`VehicleStack.Client.works_iff`: there is, and the client has all its offers by then, exactly if
the address written down in the relay is the one of the machine that it runs on.
-/

namespace VehicleStack

namespace Client

open Ecu List

/-- An address, as four bytes. -/
abbrev Ip := Buffer UInt8 4

/-- A network: the addresses written down in the relay (`LOCAL_IP` and `BCAST_ADDR`), those of the
machines, and whether the ECU has joined the group. -/
structure Network where
  localIp : Ip
  bcastAddr : Ip
  hostIp : Ip
  clientIp : Ip
  ecuIp : Ip
  joined : Bool
  host_ne_bcast : hostIp ≠ bcastAddr
  client_ne_bcast : clientIp ≠ bcastAddr
  ecu_ne_bcast : ecuIp ≠ bcastAddr
  ecu_ne_host : ecuIp ≠ hostIp
  ecu_ne_client : ecuIp ≠ clientIp

/-- Who listens on the port of the service discovery. -/
inductive Listener where
  | relay
  | client
  | ecu
  deriving DecidableEq

/-- A datagram on its way to a listener. -/
structure Packet where
  listener : Listener
  source : Ip
  payload : List UInt8

namespace Network

variable (net : Network)

/-- One round of the loop of `mcast_to_bcast.py`: what is broadcast. -/
def mcastToBcast (data : List UInt8) (srcIp : Ip) : Option (List UInt8) :=
  let data := data.take 4096
  if srcIp = net.localIp then none
  else if srcIp = net.bcastAddr then none
  else some data

/-- A broadcast of the machine that the relay runs on reaches everybody. -/
def broadcast (data : List UInt8) : List Packet :=
  [⟨.ecu, net.hostIp, data⟩, ⟨.client, net.hostIp, data⟩, ⟨.relay, net.hostIp, data⟩]

/-- An answer of the ECU to an address. If relay and client run on one machine, either may get
it. -/
def unicast (clientFirst : Bool) (destination : Ip) (data : List UInt8) : List Packet :=
  if destination = net.clientIp ∧ (clientFirst ∨ destination ≠ net.hostIp) then
    [⟨.client, net.ecuIp, data⟩]
  else if destination = net.hostIp then [⟨.relay, net.ecuIp, data⟩]
  else []

/-- What a packet makes its listener send. -/
def sentFor (beyond : ℕ → UInt8) (clientFirst : Bool) (packet : Packet) : List Packet :=
  match packet.listener with
  | .relay => ((net.mcastToBcast packet.payload packet.source).map net.broadcast).getD []
  | .ecu =>
    ((someIpSdRecvCallback net.ecuIp beyond packet.payload).map
      (net.unicast clientFirst packet.source)).getD []
  | .client => []

/-- A datagram of the client to the group. -/
def multicast (data : List UInt8) : List Packet :=
  ⟨.relay, net.clientIp, data⟩ :: if net.joined then [⟨.ecu, net.clientIp, data⟩] else []

/-- What `core0_main` has `SOMEIPSD_SendOfferService` broadcast. -/
def announcement : List Packet :=
  [⟨.relay, net.ecuIp, msgOfferService net.ecuIp⟩, ⟨.client, net.ecuIp, msgOfferService net.ecuIp⟩]

/-- How many offers a question brings: one if the ECU hears it, and one if the relay passes it
on. -/
def offersPerFind : ℕ :=
  (if net.joined then 1 else 0) + if net.clientIp = net.hostIp then 0 else 1

end Network

/-- A datagram of the client that asks for services. -/
def IsFind (payload : List UInt8) : Prop :=
  payload.length ≤ 4096 ∧ payload.take 4 = [0xFF, 0xFF, 0x81, 0x00] ∧ payload[24]? = some 0x00

instance (payload : List UInt8) : Decidable (IsFind payload) :=
  inferInstanceAs (Decidable (_ ∧ _ ∧ _))

/-- The packets under way, what the client has got, how often it asked, and how often the ECU
announced its services. -/
structure Traffic where
  inFlight : List Packet := []
  heard : List (List UInt8) := []
  finds : ℕ := 0
  announcements : ℕ := 0

/-- More packets under way. -/
def Traffic.add (t : Traffic) (packets : List Packet) : Traffic :=
  { t with inFlight := t.inFlight ++ packets }

/-- What the client has of a packet that arrives. -/
def Packet.heard (packet : Packet) : List (List UInt8) :=
  if packet.listener = .client then [packet.payload] else []

variable (net : Network)

/-- A packet arrives; any of those under way may be the next. -/
inductive Delivery : Traffic → Traffic → Prop where
  | arrive {before after : List Packet} {packet : Packet} {heard : List (List UInt8)}
      {finds announcements : ℕ} (beyond : ℕ → UInt8) (clientFirst : Bool) :
    Delivery ⟨before ++ packet :: after, heard, finds, announcements⟩
      ⟨before ++ after ++ net.sentFor beyond clientFirst packet, heard ++ packet.heard, finds,
        announcements⟩

/-- So many packets arrive, one after the other. -/
inductive Deliveries : ℕ → Traffic → Traffic → Prop where
  | refl (t : Traffic) : Deliveries 0 t t
  | tail {n : ℕ} {t u v : Traffic} : Deliveries n t u → Delivery net u v → Deliveries (n + 1) t v

/-- What may come of the client's questions and the ECU's announcements, and of packets that
arrive in any order. -/
inductive Reachable : Traffic → Prop where
  | init : Reachable {}
  | find {t : Traffic} {payload : List UInt8} : Reachable t → IsFind payload →
    Reachable { t.add (net.multicast payload) with finds := t.finds + 1 }
  | announce {t : Traffic} : Reachable t →
    Reachable { t.add net.announcement with announcements := t.announcements + 1 }
  | deliver {t u : Traffic} : Reachable t → Delivery net t u → Reachable u

/-- **The discovery works**: whatever was asked and announced, there is an end to the packets that
come of it, and by then the client has got all the offers: of each question one from the ECU
itself and one by way of the relay, as far as these hear it, and two of each announcement. -/
def Works : Prop :=
  ∀ t, Reachable net t → (∃ bound, ∀ n u, Deliveries net n t u → n ≤ bound) ∧
    (t.inFlight = [] → t.heard.count (msgOfferService net.ecuIp) =
      net.offersPerFind * t.finds + 2 * t.announcements)

/-! ### What the datagrams are -/

section Payloads

variable {payload : List UInt8} {ip : Ip} {beyond : ℕ → UInt8}

theorem IsFind.rxBuf_eq (h : IsFind payload) :
    rxBuf beyond payload 0 = 0xFF ∧ rxBuf beyond payload 1 = 0xFF ∧
      rxBuf beyond payload 2 = 0x81 ∧ rxBuf beyond payload 3 = 0x00 ∧
      rxBuf beyond payload 24 = 0x00 := by
  obtain ⟨-, hhead, htype⟩ := h
  have hbyte : ∀ i < 4, payload[i]? = ([0xFF, 0xFF, 0x81, 0x00] : List UInt8)[i]? := by
    intro i hi
    rw [← hhead, getElem?_take_of_lt hi]
  have hrx : ∀ i < 4, ∀ b, ([0xFF, 0xFF, 0x81, 0x00] : List UInt8)[i]? = some b →
      rxBuf beyond payload i = b := by
    intro i hi b hb
    rw [rxBuf, hbyte i hi, hb, Option.getD_some]
  exact ⟨hrx 0 (by omega) _ rfl, hrx 1 (by omega) _ rfl, hrx 2 (by omega) _ rfl,
    hrx 3 (by omega) _ rfl, by rw [rxBuf, htype, Option.getD_some]⟩

/-- **The ECU offers its services to who asks**, whatever its memory holds. -/
theorem IsFind.callback_eq (h : IsFind payload) :
    someIpSdRecvCallback ip beyond payload = some (msgOfferService ip) := by
  obtain ⟨h₀, h₁, h₂, h₃, h₂₄⟩ := @IsFind.rxBuf_eq payload beyond h
  rw [someIpSdRecvCallback_eq, if_pos ⟨h₀, h₁, h₂, h₃⟩, if_pos h₂₄]

theorem length_msgOfferService (ip : Ip) : (msgOfferService ip).length = 112 := by
  simp [msgOfferService, offerOption]

theorem getElem?_msgOfferService (ip : Ip) : (msgOfferService ip)[24]? = some 0x01 := rfl

/-- An offer is no question, and the ECU has no answer to it. -/
theorem not_isFind_msgOfferService (ip : Ip) : ¬IsFind (msgOfferService ip) := by
  rintro ⟨-, -, htype⟩
  rw [getElem?_msgOfferService] at htype
  cases htype

theorem callback_msgOfferService (ip' : Ip) :
    someIpSdRecvCallback ip beyond (msgOfferService ip') = none := by
  have htype : rxBuf beyond (msgOfferService ip') 24 = 0x01 := by
    rw [rxBuf, getElem?_msgOfferService, Option.getD_some]
  rw [someIpSdRecvCallback_eq, htype]
  simp

end Payloads

/-! ### A network that works

The relay knows its own address. -/

section Working

variable {net : Network} (hlocal : net.localIp = net.hostIp)

/-- A packet of such a network: a question of the client, an offer of the ECU, or one of both that
the relay broadcast. -/
inductive Packet.Usual (net : Network) : Packet → Prop where
  | question {payload : List UInt8} : IsFind payload → Usual net ⟨.relay, net.clientIp, payload⟩
  | groupQuestion {payload : List UInt8} : IsFind payload →
    Usual net ⟨.ecu, net.clientIp, payload⟩
  | broadcastQuestion {payload : List UInt8} (listener : Listener) : IsFind payload →
    Usual net ⟨listener, net.hostIp, payload⟩
  | offerToRelay : Usual net ⟨.relay, net.ecuIp, msgOfferService net.ecuIp⟩
  | offerToClient : Usual net ⟨.client, net.ecuIp, msgOfferService net.ecuIp⟩
  | broadcastOffer (listener : Listener) :
    Usual net ⟨listener, net.hostIp, msgOfferService net.ecuIp⟩

/-- How many offers will come of a packet. -/
def Packet.due (net : Network) (packet : Packet) : ℕ :=
  match packet.listener with
  | .relay => if packet.source = net.hostIp then 0 else 1
  | .ecu => if IsFind packet.payload then 1 else 0
  | .client => if packet.payload = msgOfferService net.ecuIp then 1 else 0

/-- How many packets at most arrive on account of a packet, itself included. -/
def Packet.weight (net : Network) (packet : Packet) : ℕ :=
  match packet.listener with
  | .relay => if packet.source = net.hostIp then 1 else if IsFind packet.payload then 8 else 4
  | .ecu => if IsFind packet.payload then 5 else 1
  | .client => 1

/-- The offers among what the client gets of a packet. -/
def Packet.offers (net : Network) (packet : Packet) : ℕ :=
  packet.heard.count (msgOfferService net.ecuIp)

include hlocal in
/-- The relay passes over what it broadcast itself. -/
theorem sentFor_relay_host (beyond : ℕ → UInt8) (clientFirst : Bool) (payload : List UInt8) :
    net.sentFor beyond clientFirst ⟨.relay, net.hostIp, payload⟩ = [] := by
  rw [Network.sentFor, Network.mcastToBcast]
  dsimp only
  rw [if_pos hlocal.symm]
  rfl

/-- What the relay gets from another machine, it broadcasts. -/
theorem sentFor_relay {source : Ip} {payload : List UInt8} (hsource : source ≠ net.localIp)
    (hbcast : source ≠ net.bcastAddr) (hlen : payload.length ≤ 4096) (beyond : ℕ → UInt8)
    (clientFirst : Bool) :
    net.sentFor beyond clientFirst ⟨.relay, source, payload⟩ = net.broadcast payload := by
  rw [Network.sentFor, Network.mcastToBcast]
  dsimp only
  rw [if_neg hsource, if_neg hbcast, take_of_length_le hlen]
  rfl

/-- The ECU's offer goes to who asked. -/
theorem sentFor_ecu_question {source : Ip} (hsource : source = net.clientIp ∨ source = net.hostIp)
    {payload : List UInt8} (h : IsFind payload) (beyond : ℕ → UInt8) (clientFirst : Bool) :
    ∃ listener, (listener = .client ∨ listener = .relay) ∧
      net.sentFor beyond clientFirst ⟨.ecu, source, payload⟩ =
        [⟨listener, net.ecuIp, msgOfferService net.ecuIp⟩] := by
  rw [Network.sentFor]
  dsimp only
  rw [h.callback_eq, Option.map_some, Option.getD_some, Network.unicast]
  split_ifs with hdirect hhost
  · exact ⟨.client, Or.inl rfl, rfl⟩
  · exact ⟨.relay, Or.inr rfl, rfl⟩
  · -- the client has another address than the relay, so it is served itself
    rcases hsource with hclient | hsame
    · exact absurd ⟨hclient, Or.inr hhost⟩ hdirect
    · exact absurd hsame hhost

theorem sentFor_ecu_offer (beyond : ℕ → UInt8) (clientFirst : Bool) (source : Ip) :
    net.sentFor beyond clientFirst ⟨.ecu, source, msgOfferService net.ecuIp⟩ = [] := by
  rw [Network.sentFor]
  dsimp only
  rw [callback_msgOfferService]
  rfl

/-- What a broadcast consists of. -/
theorem eq_of_mem_broadcast {payload : List UInt8} {sent : Packet}
    (h : sent ∈ net.broadcast payload) : ∃ listener, sent = ⟨listener, net.hostIp, payload⟩ := by
  rcases mem_cons.mp h with rfl | h
  · exact ⟨.ecu, rfl⟩
  · rcases mem_cons.mp h with rfl | h
    · exact ⟨.client, rfl⟩
    · exact ⟨.relay, mem_singleton.mp h⟩

/-- What is sent for a packet is as usual, comes to less than the packet did, and keeps the number
of offers that are due. -/
structure Packet.Replaced (net : Network) (packet : Packet) (sent : List Packet) : Prop where
  usual : ∀ p ∈ sent, p.Usual net
  weight : (sent.map (Packet.weight net)).sum < packet.weight net
  due : (sent.map (Packet.due net)).sum + packet.offers net = packet.due net

/-- A packet for which nothing is sent. -/
theorem replaced_nil {packet : Packet} (hweight : 0 < packet.weight net)
    (hdue : packet.offers net = packet.due net) : packet.Replaced net [] :=
  ⟨fun p hp => absurd hp not_mem_nil, hweight, by rw [map_nil, sum_nil, Nat.zero_add, hdue]⟩

/-- A question that reaches the ECU is answered. -/
theorem replaced_ecu_question {source : Ip}
    (hsource : source = net.clientIp ∨ source = net.hostIp) {payload : List UInt8}
    (hfind : IsFind payload) (beyond : ℕ → UInt8) (clientFirst : Bool) :
    (⟨.ecu, source, payload⟩ : Packet).Replaced net
      (net.sentFor beyond clientFirst ⟨.ecu, source, payload⟩) := by
  have hoffer := not_isFind_msgOfferService net.ecuIp
  obtain ⟨listener, hlistener, hsent⟩ :=
    sentFor_ecu_question hsource hfind beyond clientFirst
  rw [hsent]
  rcases hlistener with rfl | rfl
  · refine ⟨fun p hp => ?_, ?_, ?_⟩
    · rw [mem_singleton.mp hp]
      exact .offerToClient
    · simp [Packet.weight, hfind]
    · simp [Packet.due, Packet.offers, Packet.heard, hfind]
  · refine ⟨fun p hp => ?_, ?_, ?_⟩
    · rw [mem_singleton.mp hp]
      exact .offerToRelay
    · simp [Packet.weight, net.ecu_ne_host, hoffer, hfind]
    · simp [Packet.due, Packet.offers, Packet.heard, net.ecu_ne_host, hfind]

include hlocal in
/-- A question that reaches the relay is broadcast, if it comes from another machine. -/
theorem replaced_relay_question {payload : List UInt8} (hfind : IsFind payload)
    (beyond : ℕ → UInt8) (clientFirst : Bool) :
    (⟨.relay, net.clientIp, payload⟩ : Packet).Replaced net
      (net.sentFor beyond clientFirst ⟨.relay, net.clientIp, payload⟩) := by
  by_cases hclient : net.clientIp = net.hostIp
  · -- on one machine the relay takes the client's question for its own
    rw [hclient, sentFor_relay_host hlocal]
    refine replaced_nil ?_ ?_
    · simp [Packet.weight]
    · simp [Packet.due, Packet.offers, Packet.heard]
  · have hdiffer : payload ≠ msgOfferService net.ecuIp := fun heq =>
      not_isFind_msgOfferService net.ecuIp (heq ▸ hfind)
    rw [sentFor_relay (hlocal ▸ hclient) net.client_ne_bcast hfind.1]
    refine ⟨fun p hp => ?_, ?_, ?_⟩
    · obtain ⟨listener, rfl⟩ := eq_of_mem_broadcast hp
      exact .broadcastQuestion listener hfind
    · simp [Network.broadcast, Packet.weight, hclient, hfind]
    · simp [Network.broadcast, Packet.due, Packet.offers, Packet.heard, hclient, hfind, hdiffer]

include hlocal in
/-- An offer that reaches the relay is broadcast. -/
theorem replaced_relay_offer (beyond : ℕ → UInt8) (clientFirst : Bool) :
    (⟨.relay, net.ecuIp, msgOfferService net.ecuIp⟩ : Packet).Replaced net
      (net.sentFor beyond clientFirst ⟨.relay, net.ecuIp, msgOfferService net.ecuIp⟩) := by
  have hoffer := not_isFind_msgOfferService net.ecuIp
  rw [sentFor_relay (hlocal ▸ net.ecu_ne_host) net.ecu_ne_bcast
    (by rw [length_msgOfferService]; omega)]
  refine ⟨fun p hp => ?_, ?_, ?_⟩
  · obtain ⟨listener, rfl⟩ := eq_of_mem_broadcast hp
    exact .broadcastOffer listener
  · simp [Network.broadcast, Packet.weight, net.ecu_ne_host, hoffer]
  · simp [Network.broadcast, Packet.due, Packet.offers, Packet.heard, net.ecu_ne_host, hoffer]

include hlocal in
/-- **A packet arrives**, of any kind. -/
theorem replaced_sentFor {packet : Packet} (h : packet.Usual net) (beyond : ℕ → UInt8)
    (clientFirst : Bool) : packet.Replaced net (net.sentFor beyond clientFirst packet) := by
  rcases h with hfind | hfind | ⟨listener, hfind⟩ | _ | _ | listener
  · exact replaced_relay_question hlocal hfind beyond clientFirst
  · exact replaced_ecu_question (Or.inl rfl) hfind beyond clientFirst
  · rcases listener with _ | _ | _
    · rw [sentFor_relay_host hlocal]
      exact replaced_nil (by simp [Packet.weight])
        (by simp [Packet.due, Packet.offers, Packet.heard])
    · refine replaced_nil Nat.one_pos ?_
      simp [Packet.due, Packet.offers, Packet.heard, List.count_singleton]
    · exact replaced_ecu_question (Or.inr rfl) hfind beyond clientFirst
  · exact replaced_relay_offer hlocal beyond clientFirst
  · exact replaced_nil Nat.one_pos (by simp [Packet.due, Packet.offers, Packet.heard])
  · rcases listener with _ | _ | _
    · rw [sentFor_relay_host hlocal]
      exact replaced_nil (by simp [Packet.weight])
        (by simp [Packet.due, Packet.offers, Packet.heard])
    · exact replaced_nil Nat.one_pos (by simp [Packet.due, Packet.offers, Packet.heard])
    · have hoffer := not_isFind_msgOfferService net.ecuIp
      rw [sentFor_ecu_offer]
      exact replaced_nil (by simp [Packet.weight, hoffer])
        (by simp [Packet.due, Packet.offers, Packet.heard, hoffer])

/-- What all packets under way come to. -/
def total (measure : Packet → ℕ) (t : Traffic) : ℕ := (t.inFlight.map measure).sum

/-- All packets are as usual, and the offers that are due and those the client has are as many as
there should be. -/
structure Balanced (net : Network) (t : Traffic) : Prop where
  usual : ∀ packet ∈ t.inFlight, packet.Usual net
  offers : total (Packet.due net) t + t.heard.count (msgOfferService net.ecuIp) =
    net.offersPerFind * t.finds + 2 * t.announcements

include hlocal in
/-- **One packet**: the balance is kept, and there is less to come. -/
theorem Balanced.delivery {t u : Traffic} (h : Balanced net t) (hdelivery : Delivery net t u) :
    Balanced net u ∧ total (Packet.weight net) u < total (Packet.weight net) t := by
  obtain @⟨before, after, packet, heard, finds, announcements, beyond, clientFirst⟩ := hdelivery
  have hsent := replaced_sentFor hlocal (h.usual packet (mem_append_right _ mem_cons_self)) beyond
    clientFirst
  have hweight := hsent.weight
  have hdue := hsent.due
  have hoffers := h.offers
  simp only [total, map_append, map_cons, sum_append, sum_cons] at hoffers ⊢
  refine ⟨⟨?_, ?_⟩, by omega⟩
  · intro p hp
    rcases mem_append.mp hp with hold | hnew
    · refine h.usual p ?_
      rcases mem_append.mp hold with hbefore | hafter
      · exact mem_append_left _ hbefore
      · exact mem_append_right _ (mem_cons_of_mem _ hafter)
    · exact hsent.usual p hnew
  · rw [Packet.offers] at hdue
    simp only [total, map_append, sum_append, count_append]
    omega

include hlocal in
/-- **Any number of packets.** -/
theorem Balanced.deliveries {n : ℕ} {t u : Traffic} (h : Balanced net t)
    (hdeliveries : Deliveries net n t u) :
    Balanced net u ∧ n + total (Packet.weight net) u ≤ total (Packet.weight net) t := by
  induction hdeliveries with
  | refl t => exact ⟨h, by omega⟩
  | tail _ hlast ih =>
    obtain ⟨hu, hle⟩ := ih h
    obtain ⟨hv, hlt⟩ := hu.delivery hlocal hlast
    exact ⟨hv, by omega⟩

/-- More packets, as usual. -/
theorem usual_add {t : Traffic} {packets : List Packet} (h : ∀ p ∈ t.inFlight, p.Usual net)
    (hnew : ∀ p ∈ packets, p.Usual net) : ∀ p ∈ (t.add packets).inFlight, p.Usual net := by
  intro p hp
  rcases mem_append.mp hp with hold | hmore
  · exact h p hold
  · exact hnew p hmore

theorem total_add (measure : Packet → ℕ) (t : Traffic) (packets : List Packet) :
    total measure (t.add packets) = total measure t + (packets.map measure).sum := by
  rw [total, total, Traffic.add, map_append, sum_append]

theorem usual_multicast {payload : List UInt8} (hfind : IsFind payload) :
    ∀ p ∈ net.multicast payload, p.Usual net := by
  intro p hp
  rcases mem_cons.mp hp with rfl | hgroup
  · exact .question hfind
  · split_ifs at hgroup
    · rw [mem_singleton.mp hgroup]
      exact .groupQuestion hfind
    · cases hgroup

/-- What a question is worth. -/
theorem due_multicast {payload : List UInt8} (hfind : IsFind payload) :
    ((net.multicast payload).map (Packet.due net)).sum = net.offersPerFind := by
  rw [Network.multicast, Network.offersPerFind]
  by_cases hjoined : net.joined = true
  · simp [hjoined, Packet.due, hfind, Nat.add_comm]
  · simp [hjoined, Packet.due]

theorem usual_announcement : ∀ p ∈ net.announcement, p.Usual net := by
  intro p hp
  rcases mem_cons.mp hp with rfl | hclient
  · exact .offerToRelay
  · rw [mem_singleton.mp hclient]
    exact .offerToClient

theorem due_announcement : (net.announcement.map (Packet.due net)).sum = 2 := by
  simp [Network.announcement, Packet.due, net.ecu_ne_host]

include hlocal in
theorem balanced_of_reachable {t : Traffic} (h : Reachable net t) : Balanced net t := by
  induction h with
  | init => exact ⟨fun packet hp => absurd hp not_mem_nil, rfl⟩
  | @find t payload _ hfind ih =>
    refine ⟨usual_add ih.usual (usual_multicast hfind), ?_⟩
    have hoffers := ih.offers
    have htotal := total_add (Packet.due net) t (net.multicast payload)
    rw [due_multicast hfind] at htotal
    dsimp only [total] at htotal hoffers ⊢
    rw [htotal, Nat.mul_succ]
    change _ + t.heard.count _ = _ + _ + 2 * t.announcements
    omega
  | @announce t _ ih =>
    refine ⟨usual_add ih.usual usual_announcement, ?_⟩
    have hoffers := ih.offers
    have htotal := total_add (Packet.due net) t net.announcement
    rw [due_announcement] at htotal
    dsimp only [total] at htotal hoffers ⊢
    rw [htotal, Nat.mul_succ]
    change _ + t.heard.count _ = net.offersPerFind * t.finds + _
    omega
  | deliver _ hdelivery ih => exact (ih.delivery hlocal hdelivery).1

include hlocal in
theorem works_of_local : Works net := by
  intro t ht
  have hbalanced := balanced_of_reachable hlocal ht
  refine ⟨⟨total (Packet.weight net) t, fun n u hdeliveries => ?_⟩, fun hrest => ?_⟩
  · have hle := (hbalanced.deliveries hlocal hdeliveries).2
    omega
  · have hoffers := hbalanced.offers
    rw [total, hrest, map_nil, sum_nil, Nat.zero_add] at hoffers
    exact hoffers

end Working

/-! ### Networks that do not work -/

section Failing

variable {net : Network}

/-- The relay's own broadcast, on its way back to it. -/
def echo (net : Network) (payload : List UInt8) : Packet := ⟨.relay, net.hostIp, payload⟩

variable {payload : List UInt8} (hlen : payload.length ≤ 4096)

include hlen in
/-- What reaches the relay from another address comes back to it. -/
theorem exists_delivery_echo {source : Ip} (hlocal : source ≠ net.localIp)
    (hbcast : source ≠ net.bcastAddr) {t : Traffic}
    (h : (⟨.relay, source, payload⟩ : Packet) ∈ t.inFlight) :
    ∃ u, Delivery net t u ∧ echo net payload ∈ u.inFlight := by
  obtain ⟨inFlight, heard, finds, announcements⟩ := t
  obtain ⟨before, after, rfl⟩ := append_of_mem h
  refine ⟨_, .arrive (fun _ => 0) false, mem_append_right _ ?_⟩
  rw [sentFor_relay hlocal hbcast hlen, Network.broadcast, echo]
  simp

include hlen in
/-- **The relay does not know its own broadcast**, and repeats it, as often as one likes. -/
theorem exists_deliveries_of_echo (hlocal : net.hostIp ≠ net.localIp) {t : Traffic}
    (h : echo net payload ∈ t.inFlight) (n : ℕ) :
    ∃ u, Deliveries net n t u ∧ echo net payload ∈ u.inFlight := by
  induction n with
  | zero => exact ⟨t, .refl t, h⟩
  | succ n ih =>
    obtain ⟨u, hdeliveries, hecho⟩ := ih
    obtain ⟨v, hdelivery, hecho'⟩ := exists_delivery_echo hlen hlocal net.host_ne_bcast hecho
    exact ⟨v, hdeliveries.tail hdelivery, hecho'⟩

include hlen in
/-- Once something reaches the relay from another address, there is no end to it. -/
theorem not_works_of_packet (hhost : net.hostIp ≠ net.localIp) {source : Ip}
    (hlocal : source ≠ net.localIp) (hbcast : source ≠ net.bcastAddr) {t : Traffic}
    (ht : Reachable net t) (h : (⟨.relay, source, payload⟩ : Packet) ∈ t.inFlight) :
    ¬Works net := by
  intro hworks
  obtain ⟨u, hdelivery, hecho⟩ := exists_delivery_echo hlen hlocal hbcast h
  obtain ⟨bound, hbound⟩ := (hworks u (ht.deliver hdelivery)).1
  obtain ⟨v, hdeliveries, -⟩ := exists_deliveries_of_echo hlen hhost hecho (bound + 1)
  have hle := hbound _ v hdeliveries
  omega

/-- A datagram that asks for services. -/
def question : List UInt8 := [0xFF, 0xFF, 0x81, 0x00] ++ replicate 21 0x00

theorem isFind_question : IsFind question := by decide

/-- A question gets it going, or an announcement if the relay takes the client for itself. -/
theorem not_works_of_host (hhost : net.hostIp ≠ net.localIp) : ¬Works net := by
  by_cases hclient : net.clientIp = net.localIp
  · have hlen : (msgOfferService net.ecuIp).length ≤ 4096 := by
      rw [length_msgOfferService]
      omega
    exact not_works_of_packet hlen hhost (hclient ▸ net.ecu_ne_client) net.ecu_ne_bcast
      (.announce .init) mem_cons_self
  · exact not_works_of_packet isFind_question.1 hhost hclient net.client_ne_bcast
      (.find .init isFind_question) mem_cons_self

end Failing

/-- **When the discovery works**: exactly if the address written down in the relay is that of the
machine it runs on. Otherwise it repeats for ever what it broadcast. -/
theorem works_iff (net : Network) : Works net ↔ net.localIp = net.hostIp := by
  refine ⟨fun hworks => ?_, fun hlocal => works_of_local hlocal⟩
  by_contra hne
  exact not_works_of_host (Ne.symm hne) hworks

section Configured

/-- An address of the vehicle's network. -/
def inVehicle (last : UInt8) : Ip := ⟨[192, 168, 2, last], rfl⟩

theorem inVehicle_ne {a b : UInt8} (h : a ≠ b) : inVehicle a ≠ inVehicle b := by
  intro heq
  have hcells := congrArg Buffer.cells heq
  exact h (List.cons.inj (List.cons.inj (List.cons.inj (List.cons.inj hcells).2).2).2).1

theorem hostAddress_ne {host : UInt8} (h : host ≠ 255 ∧ host ≠ 20) :
    inVehicle host ≠ inVehicle 255 ∧ inVehicle 20 ≠ inVehicle host :=
  ⟨inVehicle_ne h.1, inVehicle_ne h.2.symm⟩

theorem client_address_ne : inVehicle 30 ≠ inVehicle 255 ∧ inVehicle 20 ≠ inVehicle 30 :=
  ⟨inVehicle_ne (by decide), inVehicle_ne (by decide)⟩

theorem ecu_address_ne : inVehicle 20 ≠ inVehicle 255 := inVehicle_ne (by decide)

/-- The addresses in the sources, with the relay on a machine of a given address. -/
def vehicleNetwork (host : UInt8) (h : host ≠ 255 ∧ host ≠ 20) : Network where
  localIp := inVehicle 31
  bcastAddr := inVehicle 255
  hostIp := inVehicle host
  clientIp := inVehicle 30
  ecuIp := inVehicle 20
  joined := true
  host_ne_bcast := (hostAddress_ne h).1
  client_ne_bcast := client_address_ne.1
  ecu_ne_bcast := ecu_address_ne
  ecu_ne_host := (hostAddress_ne h).2
  ecu_ne_client := client_address_ne.2

/-- The relay has to be on the machine that has its address; on the client's machine, whose address
is another one, it does not work. -/
theorem works_iff_vehicleNetwork :
    Works (vehicleNetwork 31 (by decide)) ∧ ¬Works (vehicleNetwork 30 (by decide)) := by
  refine ⟨(works_iff _).mpr rfl, fun hworks => ?_⟩
  exact inVehicle_ne (by decide) ((works_iff _).mp hworks)

end Configured

end Client

end VehicleStack
