import Mathlib.Algebra.Order.BigOperators.Group.List
import Ads.Transition.Transducer
import Ads.Udp.Systems

/-!
# Queries and their router

A router at the other end of the queries reads each request with the functions
that read replies, and answers with a message of its own.  The network between
them may lose a request or a reply.  What a query returns, and what it does to the
router, is what the router would do if it were asked without any messages.
-/

namespace Ads.Udp

open Ads.Bytes Ads.Bytes.Reader Ads.Client Ads.Control Ads.Text Ads.Transition

/-! ## The arguments of a route -/

/-- The arguments for setting a route. -/
structure RouteArgs where
  netid : AmsNetId
  host : String
  routename : Option String
  username : Option String
  password : Option String
  temporary : Bool

/-- A route that a router is to add, and by whose permission. -/
structure Route where
  netid : AmsNetId
  host : String
  routename : String
  username : String
  password : String
  temporary : Bool
  deriving DecidableEq

/-- A text whose length with its terminator is more than a length field can say by one. -/
def overflows (text : String) : Bool :=
  (utf8Bytes text).length % 2 ^ 16 == 65535

namespace RouteArgs

/-- The route with all defaults. -/
def route (args : RouteArgs) : Route where
  netid := args.netid
  host := args.host
  routename := args.routename.getD args.host
  username := args.username.getD "Administrator"
  password := args.password.getD "1"
  temporary := args.temporary

/-- The request for it. -/
def request (args : RouteArgs) : Outcome Error Message :=
  routeRequest args.netid args.host args.routename args.username args.password args.temporary

/-- The texts of the request. -/
def texts (args : RouteArgs) : List (Tag × String) :=
  [(.computerName, args.route.host), (.userName, args.route.username),
    (.password, args.route.password), (.routeName, args.route.routename)]

/-- How many bytes a row of texts takes. -/
def textsSize (texts : List (Tag × String)) : Nat :=
  (texts.map fun text => (utf8Bytes text.2).length + 5).sum

/-- How many bytes the request takes. -/
def size (args : RouteArgs) : Nat :=
  34 + textsSize args.texts + if args.temporary then 8 else 0

end RouteArgs

/-! ## Routers -/

/-- A router over the states `S`: what its system says about itself, and what it does when
it is asked for a route, for which it has a status. -/
structure Router (S : Type) where
  announce : S → Announcement
  setRoute : S → Route → UInt32 × S

/-- Change the service of a message. -/
def Message.setService (message : Message) (service : ServiceId) (reply : Bool) :
    Outcome Error Message :=
  if 12 ≤ message.data.length then
    .ok { message with
          data := paste message.data 8 (u32Bytes (serviceNumber service reply)) }
  else .panic

/-- The bytes of a reply with these items. -/
def reply (service : ServiceId) (source : AmsAddr) (calls : List Call) :
    Outcome Error (List UInt8) := do
  let message ← build service source calls
  let message ← message.setService service true
  .ok message.asBytes

/-- The route that is asked for in a request. -/
def readRoute (request : Message) : Outcome Error (Option Route) := do
  let netid ← request.getBytes .netID
  let host ← request.getStr .computerName
  let username ← request.getStr .userName
  let password ← request.getStr .password
  let routename ← request.getStr .routeName
  let options ← request.getU32 .options
  .ok (match netid.bind AmsNetId.fromSlice, host, username, password, routename with
    | some netid, some host, some username, some password, some routename =>
        some { netid, host, routename, username, password, temporary := options == some 1 }
    | _, _, _, _, _ => none)

namespace Router

variable {S : Type} (router : Router S)

/-- Answer a datagram.  One that cannot be read gets no answer. -/
def receive (state : S) (datagram : List UInt8) : Outcome Error (List UInt8) × S :=
  match Message.parse datagram .identify false with
  | .ok _ =>
      let announcement := router.announce state
      (reply .identify announcement.system.addr announcement.calls, state)
  | _ =>
      match Message.parse datagram .addRoute false >>= readRoute with
      | .ok (some route) =>
          let (status, after) := router.setRoute state route
          (reply .addRoute (router.announce state).system.addr [.addU32 .status status], after)
      | _ => (.panic, state)

end Router

/-! ## The network -/

/-- A network that takes datagrams up to a length, with its errors for a datagram that is
longer and for a wait in vain. -/
structure Network where
  limit : Nat
  least : 24 ≤ limit
  most : limit ≤ 65507
  refused : IoErrorKind
  elapsed : IoErrorKind

/-- What becomes of a query: its request may be lost, or the reply to it. -/
inductive Fate
  | delivered
  | requestLost
  | replyLost
  deriving DecidableEq

namespace Network

variable {S : Type} (network : Network) (router : Router S)

/-- Send a datagram to the router and wait for its answer. -/
def exchange (fate : Fate) (state : S) (datagram : List UInt8) : Exchange × S :=
  if network.limit < datagram.length then (.sendFailed network.refused, state)
  else
    match fate with
    | .requestLost => (.receiveFailed network.elapsed, state)
    | .replyLost => (.receiveFailed network.elapsed, (router.receive state datagram).2)
    | .delivered =>
        match router.receive state datagram with
        | (.ok answer, after) => (.received answer, after)
        | (_, after) => (.receiveFailed network.elapsed, after)

end Network

/-! ## A program that asks -/

/-- A query. -/
inductive Query
  | netid
  | info
  | route (args : RouteArgs)

/-- What it returns. -/
inductive QueryResult
  | netid (outcome : Outcome Error AmsNetId)
  | info (outcome : Outcome Error SysInfo)
  | route (outcome : Outcome Error Unit)
  deriving DecidableEq

namespace Query

/-- The request of a query. -/
def request : Query → Outcome Error Message
  | netid => .ok identifyRequest
  | info => .ok identifyRequest
  | route args => args.request

/-- Make a query over the network's answers. -/
def run : Query → (List UInt8 → Exchange) → QueryResult
  | netid, answers => .netid (getNetid answers)
  | info, answers => .info (getInfo answers)
  | route args, answers =>
      .route (addRoute args.netid args.host args.routename args.username args.password
        args.temporary answers)

end Query

namespace Network

variable {S : Type} (network : Network) (router : Router S)

/-- Make a query to the router, which gets its request if there is one. -/
def ask (state : S) (asked : Query × Fate) : Option (QueryResult × S) :=
  let exchange := network.exchange router asked.2 state
  some (asked.1.run fun datagram => (exchange datagram).1,
    match asked.1.request with
    | .ok packet => (exchange packet.asBytes).2
    | _ => state)

/-! ## What the queries are for -/

/-- The result of a query whose answer arrives or not. -/
def arrived {α : Type} (fate : Fate) (outcome : Outcome Error α) : Outcome Error α :=
  match fate with
  | .delivered => outcome
  | _ => .err (.io "receiving UDP reply" network.elapsed)

/-- What a status means. -/
def routed (status : UInt32) : Outcome Error Unit :=
  if status = 0 then .ok () else .err (adsError "setting route" status)

/-- Ask the router without any messages.  A route with a text that overflows is a panic,
and one that takes more than a datagram is refused; otherwise it is added unless the
request is lost. -/
def consult (state : S) (asked : Query × Fate) : Option (QueryResult × S) :=
  let system := (router.announce state).system
  match asked.1 with
  | .netid => some (.netid (network.arrived asked.2 (.ok system.addr.netid)), state)
  | .info => some (.info (network.arrived asked.2 (.ok system.info)), state)
  | .route args =>
      if args.texts.any fun text => overflows text.2 then some (.route .panic, state)
      else if network.limit < args.size then
        some (.route (.err (.io "sending UDP request" network.refused)), state)
      else
        let (status, after) := router.setRoute state args.route
        some (.route (network.arrived asked.2 (routed status)),
          if asked.2 = .requestLost then state else after)

end Network

/-! ## Replies -/

/-- The header of a reply. -/
def replyHeader (service : ServiceId) (source : AmsAddr) (count : Nat) : UdpHeader :=
  { countedHeader service source count with service := Message.serviceNumber service true }

theorem paste_service (header : UdpHeader) (service : UInt32) (rest : List UInt8) :
    paste (header.asBytes ++ rest) 8 (u32Bytes service) =
      { header with service := service }.asBytes ++ rest := by
  have front : (u32Bytes header.magic ++ u32Bytes header.invokeId).length = 8 := by simp
  have pasted := @paste_append _ (u32Bytes header.magic ++ u32Bytes header.invokeId)
    (u32Bytes header.service) (u32Bytes service) (by simp)
    ((header.srcNetid.octets ++ u16Bytes header.srcPort) ++ (u32Bytes header.numItems ++ rest))
  rw [front] at pasted
  simpa [UdpHeader.asBytes, List.append_assoc] using pasted

theorem subslice_service (header : UdpHeader) (rest : List UInt8) :
    (subslice (header.asBytes ++ rest) 8 12 : Outcome Error _) = .ok (u32Bytes header.service) := by
  have front : (u32Bytes header.magic ++ u32Bytes header.invokeId).length = 8 := by simp
  have sliced := @subslice_append Error _ (u32Bytes header.magic ++ u32Bytes header.invokeId)
    (u32Bytes header.service)
    ((header.srcNetid.octets ++ u16Bytes header.srcPort) ++ (u32Bytes header.numItems ++ rest))
  rw [front, length_u32Bytes] at sliced
  simpa [UdpHeader.asBytes, List.append_assoc] using sliced

/-- The bytes of a reply. -/
theorem reply_eq (service : ServiceId) (source : AmsAddr) (calls : List Call) :
    reply service source calls =
      .ok ((replyHeader service source calls.length).asBytes ++ row calls) := by
  have room : 12 ≤ (built service source calls).data.length := by
    rw [built, List.length_append, UdpHeader.length_asBytes]
    omega
  rw [reply, build_eq, Outcome.ok_bind, Message.setService, if_pos room, Outcome.ok_bind,
    Message.asBytes]
  dsimp only
  rw [built, paste_service]
  rfl

theorem carries_reply (service : ServiceId) (source : AmsAddr) (calls : List Call) :
    Message.Carries (Message.serviceNumber service true)
      ((replyHeader service source calls.length).asBytes ++ row calls) (calls.map Call.item) [] := by
  refine ⟨replyHeader service source calls.length, ⟨rfl, rfl, rfl⟩, ?_⟩
  rw [List.append_nil]
  rfl

/-- A request is sent whole, and its service decides which reply is accepted. -/
theorem sendReceive_built (service : ServiceId) (source : AmsAddr) (calls : List Call)
    (answers : List UInt8 → Exchange) :
    (built service source calls).sendReceive answers =
      (answers (built service source calls).asBytes).reply >>= fun bytes =>
        Message.parseInternal bytes (Message.serviceNumber service true) := by
  have number : leU32 (u32Bytes service.toU32) = service.toU32 := by
    have read := leU32_u32Bytes_append service.toU32 []
    rwa [List.append_nil] at read
  have asked : (subslice (built service source calls).data 8 12 : Outcome Error _) =
      .ok (u32Bytes service.toU32) :=
    subslice_service (countedHeader service source calls.length) (row calls)
  rw [Message.sendReceive, asked]
  simp only [Outcome.ok_bind, number]
  rfl

theorem identifyRequest_eq : identifyRequest = built .identify AmsAddr.default [] := by
  simp [identifyRequest, built, row, Tagged.ranges, Message.new, countedHeader]
  rfl

/-! ## Requests -/

/-- A message is of one service only. -/
theorem parse_other {service other : ServiceId} (different : other ≠ service) (source : AmsAddr)
    (calls : List Call) (message : Message) :
    Message.parse (built service source calls).asBytes other false ≠ .ok message := by
  intro parsed
  obtain ⟨items, place, ⟨header, expected, bytes⟩, -, -⟩ := Message.parseInternal_eq_ok_iff.mp parsed
  have first := subslice_service (countedHeader service source calls.length) (row calls)
  have second := subslice_service header (items.flatMap Tagged.bytes ++ place)
  have same : (built service source calls).asBytes =
      (countedHeader service source calls.length).asBytes ++ row calls := rfl
  rw [← bytes, same, first] at second
  have words := congrArg leU32 (Outcome.ok.inj second)
  have numbers := leU32_u32Bytes_append header.service []
  have others := leU32_u32Bytes_append (countedHeader service source calls.length).service []
  rw [List.append_nil] at numbers others
  rw [numbers, others, expected.service] at words
  have asked : service.toU32 = other.toU32 ||| (if false = true then (0x80000000 : UInt32) else 0) :=
    words
  cases service with
  | identify =>
      cases other with
      | identify => exact different rfl
      | addRoute => exact absurd asked (by decide)
  | addRoute =>
      cases other with
      | identify => exact absurd asked (by decide)
      | addRoute => exact different rfl

/-- With room for the header, an item is appended. -/
theorem push_length {message : Message} (room : 24 ≤ message.data.length) (tag : Tag)
    (len : UInt16) (payload : List UInt8) :
    ∃ after, message.push tag len payload = .ok after ∧
      after.data.length = message.data.length + (payload.length + 4) := by
  have size : (message.data ++ u16Bytes tag.toU16 ++ (u16Bytes len ++ payload)).length =
      message.data.length + (payload.length + 4) := by
    simp only [List.length_append, length_u16Bytes]
    omega
  have enough : 24 ≤ (message.data ++ u16Bytes tag.toU16 ++ (u16Bytes len ++ payload)).length := by
    omega
  rw [Message.push, Message.writeCount, if_pos enough]
  refine ⟨_, rfl, ?_⟩
  dsimp only
  rw [length_paste (by rw [length_u32Bytes]; exact enough), size]

theorem addStr_of_overflows {message : Message} {text : String} (tag : Tag)
    (long : overflows text = true) : message.addStr tag text = .panic := by
  have full : UInt16.ofNat (utf8Bytes text).length = 0xFFFF := by
    rw [← UInt16.toNat_inj, UInt16.toNat_ofNat']
    exact beq_iff_eq.mp long
  rw [Message.addStr, if_pos full]

theorem addStr_length {message : Message} (room : 24 ≤ message.data.length) (tag : Tag)
    {text : String} (fits : overflows text = false) :
    ∃ after, message.addStr tag text = .ok after ∧
      after.data.length = message.data.length + ((utf8Bytes text).length + 5) := by
  have notFull : UInt16.ofNat (utf8Bytes text).length ≠ 0xFFFF := by
    rw [ne_eq, ← UInt16.toNat_inj, UInt16.toNat_ofNat']
    exact beq_eq_false_iff_ne.mp fits
  have pushed := push_length room tag (UInt16.ofNat (utf8Bytes text).length + 1)
    (utf8Bytes text ++ [0])
  rw [List.length_append, List.length_singleton] at pushed
  rw [Message.addStr, if_neg notFull]
  exact pushed

/-- Add a row of texts. -/
def addTexts (texts : List (Tag × String)) (message : Message) : Outcome Error Message :=
  texts.foldlM (fun message text => message.addStr text.1 text.2) message

/-- A row of texts panics at the first one that overflows. -/
theorem addTexts_cases {message : Message} (room : 24 ≤ message.data.length)
    (texts : List (Tag × String)) :
    (texts.any (fun text => overflows text.2) = true ∧ addTexts texts message = .panic) ∨
      (texts.any (fun text => overflows text.2) = false ∧ ∃ after,
        addTexts texts message = .ok after ∧
          after.data.length = message.data.length + RouteArgs.textsSize texts) := by
  induction texts generalizing message with
  | nil => exact Or.inr ⟨rfl, message, rfl, rfl⟩
  | cons text texts ih =>
      rw [List.any_cons, addTexts, List.foldlM_cons]
      cases long : overflows text.2 with
      | true =>
          rw [addStr_of_overflows text.1 long]
          exact Or.inl ⟨rfl, rfl⟩
      | false =>
          obtain ⟨after, added, size⟩ := addStr_length room text.1 long
          rw [added, Outcome.ok_bind]
          rcases @ih after (by omega) with ⟨later, panicked⟩ | ⟨none, last, ok, total⟩
          · exact Or.inl ⟨later, panicked⟩
          · refine Or.inr ⟨none, last, ok, ?_⟩
            rw [total, size, RouteArgs.textsSize, RouteArgs.textsSize, List.map_cons, List.sum_cons]
            omega

namespace RouteArgs

variable (args : RouteArgs)

/-- The request is the NetID, the texts and the options. -/
theorem request_eq_addTexts :
    args.request = ((Message.new .addRoute ⟨args.netid, 0⟩).addBytes .netID args.netid.octets >>=
      addTexts args.texts) >>= fun packet =>
        if args.temporary then packet.addU32 .options 1 else .ok packet := by
  simp only [request, routeRequest, addTexts, texts, List.foldlM_cons, List.foldlM_nil, bind_assoc,
    pure_bind]
  rfl

/-- Making the request panics if a text overflows, and otherwise gives a packet of its
size. -/
theorem request_cases :
    (args.texts.any (fun text => overflows text.2) = true ∧ args.request = .panic) ∨
      (args.texts.any (fun text => overflows text.2) = false ∧ ∃ packet,
        args.request = .ok packet ∧ packet.asBytes.length = args.size) := by
  have front : 24 = (Message.new .addRoute ⟨args.netid, 0⟩).data.length := by
    rw [Message.new, UdpHeader.length_asBytes]
  obtain ⟨first, added, length⟩ := push_length (Nat.le_of_eq front) .netID
    (UInt16.ofNat args.netid.octets.length) args.netid.octets
  have start : (Message.new .addRoute ⟨args.netid, 0⟩).addBytes .netID args.netid.octets =
      .ok first := added
  rw [← front, args.netid.size] at length
  rw [request_eq_addTexts, start, Outcome.ok_bind]
  rcases addTexts_cases (Nat.le_of_lt (by omega) : 24 ≤ first.data.length) args.texts with
    ⟨long, panicked⟩ | ⟨none, second, ok, total⟩
  · rw [panicked]
    exact Or.inl ⟨long, rfl⟩
  · rw [ok, Outcome.ok_bind, size]
    refine Or.inr ⟨none, ?_⟩
    cases args.temporary with
    | false => exact ⟨second, rfl, by rw [Message.asBytes, total, length]; rfl⟩
    | true =>
        obtain ⟨packet, last, more⟩ := push_length (by omega : 24 ≤ second.data.length) .options 4
          (u32Bytes 1)
        refine ⟨packet, last, ?_⟩
        rw [Message.asBytes, more, total, length, length_u32Bytes]
        rfl

/-- Every text of a request is part of its size. -/
theorem length_le_textsSize {text : Tag × String} {texts : List (Tag × String)}
    (member : text ∈ texts) : (utf8Bytes text.2).length + 5 ≤ textsSize texts :=
  List.le_sum_of_mem (List.mem_map_of_mem member)

/-- The texts fit their length fields. -/
def Short : Prop :=
  ∀ text ∈ args.texts, (utf8Bytes text.2).length ≤ 65534

theorem short_of_size (fits : args.size ≤ 65507) : args.Short := by
  intro text member
  have part := length_le_textsSize member
  rw [size] at fits
  omega

variable {args}

/-- The calls that make the request. -/
def calls (short : args.Short) : List Call :=
  [.addBytes .netID args.netid.octets (by rw [args.netid.size]; decide),
    .addStr .computerName args.route.host (short (.computerName, _) (by simp [texts])),
    .addStr .userName args.route.username (short (.userName, _) (by simp [texts])),
    .addStr .password args.route.password (short (.password, _) (by simp [texts])),
    .addStr .routeName args.route.routename (short (.routeName, _) (by simp [texts]))] ++
      if args.temporary then [.addU32 .options 1] else []

theorem request_eq (short : args.Short) :
    args.request = .ok (built .addRoute ⟨args.netid, 0⟩ (args.calls short)) := by
  rw [← build_eq, request_eq_addTexts, build, calls, List.foldlM_append]
  simp only [addTexts, texts, List.foldlM_cons, List.foldlM_nil, bind_assoc, bind_pure]
  cases args.temporary with
  | false => rfl
  | true =>
      simp only [if_true, List.foldlM_cons, List.foldlM_nil, bind_pure]
      rfl

/-- The router reads what was asked for. -/
theorem readRoute_parsed (short : args.Short) :
    readRoute (parsed .addRoute ⟨args.netid, 0⟩ (args.calls short)) = .ok (some args.route) := by
  have octets : (parsed .addRoute ⟨args.netid, 0⟩ (args.calls short)).getBytes .netID =
      .ok (some args.netid.octets) := getBytes_parsed _ _ _ _
  have text (tag : Tag) (text : String) (bound : (utf8Bytes text).length ≤ 65534)
      (first : firstWith (args.calls short) tag = some (.addStr tag text bound)) :
      (parsed .addRoute ⟨args.netid, 0⟩ (args.calls short)).getStr tag = .ok (some text) :=
    getStr_parsed _ _ first
  have options : (parsed .addRoute ⟨args.netid, 0⟩ (args.calls short)).getU32 .options =
      .ok (if args.temporary then some 1 else none) := by
    have carries := carries_built .addRoute ⟨args.netid, 0⟩ (args.calls short)
    cases marked : args.temporary with
    | true => exact getU32_parsed _ _ (by rw [calls, marked]; rfl)
    | false =>
        have absent : firstWith (args.calls short) .options = none := by
          rw [calls, marked]
          rfl
        have answer := carries.getU32_eq .options
        rw [firstItem_map, absent] at answer
        exact answer
  rw [readRoute, octets, Outcome.ok_bind, text .computerName _ _ rfl, Outcome.ok_bind,
    text .userName _ _ rfl, Outcome.ok_bind, text .password _ _ rfl, Outcome.ok_bind,
    text .routeName _ _ rfl, Outcome.ok_bind, options, Outcome.ok_bind, Option.bind_some,
    AmsNetId.fromSlice_octets]
  cases marked : args.temporary with
  | true => simp [route, marked]
  | false => simp [route, marked]

end RouteArgs

/-! ## Answers -/

variable {S : Type} (router : Router S)

/-- A request for identification gets the announcement. -/
theorem Router.receive_identify (state : S) (source : AmsAddr) (calls : List Call) :
    router.receive state (built .identify source calls).asBytes =
      (reply .identify (router.announce state).system.addr (router.announce state).calls,
        state) := by
  rw [Router.receive, parse_built]

/-- A request for a route adds it. -/
theorem Router.receive_route (state : S) {args : RouteArgs} (short : args.Short) :
    router.receive state (built .addRoute ⟨args.netid, 0⟩ (args.calls short)).asBytes =
      (reply .addRoute (router.announce state).system.addr
          [.addU32 .status (router.setRoute state args.route).1],
        (router.setRoute state args.route).2) := by
  have other := parse_other (by decide : ServiceId.identify ≠ .addRoute) ⟨args.netid, 0⟩
    (args.calls short)
  rw [Router.receive]
  split
  · rename_i message accepted
    exact absurd accepted (other message)
  · rw [parse_built, Outcome.ok_bind, RouteArgs.readRoute_parsed]

variable (network : Network)

namespace Network

variable {router network}

/-- A datagram that the router answers, and what its sender gets to see. -/
theorem exchange_eq {fate : Fate} {state after : S} {datagram answer : List UInt8}
    (short : datagram.length ≤ network.limit)
    (answered : router.receive state datagram = (.ok answer, after)) :
    network.exchange router fate state datagram =
      (if fate = .delivered then .received answer else .receiveFailed network.elapsed,
        if fate = .requestLost then state else after) := by
  have sent : ¬network.limit < datagram.length := Nat.not_lt_of_le short
  cases fate with
  | delivered => rw [exchange, if_neg sent, answered]; rfl
  | requestLost => rw [exchange, if_neg sent]; rfl
  | replyLost => rw [exchange, if_neg sent, answered]; rfl

/-- A request and its reply: what is read of the reply is what arrives. -/
theorem sendReceive_arrived {α : Type} {fate : Fate} {state after : S}
    {service : ServiceId} {source addr : AmsAddr} {calls items : List Call}
    (short : (built service source calls).asBytes.length ≤ network.limit)
    (answered : router.receive state (built service source calls).asBytes =
      (reply service addr items, after))
    (fits : 24 + (row items).length ≤ 576) (next : Message → Outcome Error α) :
    ((built service source calls).sendReceive fun datagram =>
        (network.exchange router fate state datagram).1) >>= next =
      network.arrived fate (next ⟨Tagged.ranges 4 24 (items.map Call.item),
        (replyHeader service addr items.length).asBytes ++ row items⟩) := by
  rw [reply_eq] at answered
  have size : ((replyHeader service addr items.length).asBytes ++ row items).length ≤ 576 := by
    rwa [List.length_append, UdpHeader.length_asBytes]
  rw [sendReceive_built, exchange_eq short answered]
  cases fate with
  | delivered =>
      dsimp only
      rw [if_pos rfl, Exchange.reply, List.take_of_length_le size, Outcome.ok_bind,
        (carries_reply service addr items).accepted (by decide), Outcome.ok_bind]
      rfl
  | requestLost => rfl
  | replyLost => rfl

/-- Where a reply comes from. -/
theorem getSource_reply (service : ServiceId) (addr : AmsAddr) (items : List Call) :
    Message.getSource ⟨Tagged.ranges 4 24 (items.map Call.item),
      (replyHeader service addr items.length).asBytes ++ row items⟩ = .ok addr :=
  Message.getSource_header (replyHeader service addr items.length) _ (row items)

theorem readStatus_reply (addr : AmsAddr) (status : UInt32) :
    readStatus ⟨Tagged.ranges 4 24 ([Call.addU32 .status status].map Call.item),
      (replyHeader .addRoute addr [Call.addU32 .status status].length).asBytes ++
        row [.addU32 .status status]⟩ = routed status := by
  have answer := (carries_reply .addRoute addr [.addU32 .status status]).getU32_eq .status
  have enough : ¬(u32Bytes status).length < 4 := by simp
  have word := leU32_u32Bytes_append status []
  rw [List.append_nil] at word
  have read : Message.wordOf (u32Bytes status) = some status := by
    rw [Message.wordOf, if_neg enough, word]
  have first : firstWith [Call.addU32 .status status] .status = some (.addU32 .status status) := rfl
  rw [firstItem_map, first] at answer
  rw [readStatus, answer.trans (congrArg Outcome.ok read), Outcome.ok_bind]
  rfl

/-- Adding a route is a request and its status. -/
theorem run_route (args : RouteArgs) (answers : List UInt8 → Exchange) :
    (Query.route args).run answers = .route (args.request >>= fun packet =>
      packet.sendReceive answers >>= readStatus) :=
  rfl

/-- A packet that is too long is refused. -/
theorem exchange_refused {fate : Fate} {state : S} {datagram : List UInt8}
    (long : network.limit < datagram.length) :
    network.exchange router fate state datagram = (.sendFailed network.refused, state) := by
  cases fate with
  | delivered => rw [exchange, if_pos long]
  | requestLost => rw [exchange, if_pos long]
  | replyLost => rw [exchange, if_pos long]

/-! ## Runs -/

variable (network router)

/-- Asking a system for what it says about itself. -/
theorem ask_identify (state : S) (fate : Fate) :
    (getNetid fun datagram => (network.exchange router fate state datagram).1) =
        network.arrived fate (.ok (router.announce state).system.addr.netid) ∧
      (getInfo fun datagram => (network.exchange router fate state datagram).1) =
        network.arrived fate (.ok (router.announce state).system.info) ∧
      (network.exchange router fate state identifyRequest.asBytes).2 = state := by
  have short : (built .identify AmsAddr.default []).asBytes.length ≤ network.limit := network.least
  have answered := router.receive_identify state AmsAddr.default []
  have fits := (router.announce state).fits
  have read := (router.announce state).readInfo_eq
    (carries_reply .identify (router.announce state).system.addr (router.announce state).calls)
    (getSource_reply _ _ _)
  refine ⟨?_, ?_, ?_⟩
  · rw [getNetid, identifyRequest_eq, sendReceive_arrived short answered fits, getSource_reply,
      Outcome.ok_bind]
  · rw [getInfo, identifyRequest_eq, sendReceive_arrived short answered fits, read]
  · rw [reply_eq] at answered
    rw [identifyRequest_eq, exchange_eq short answered]
    exact ite_self state

/-- A query does what the router would do if it were asked without any messages. -/
theorem ask_eq_consult (state : S) (asked : Query × Fate) :
    network.ask router state asked = network.consult router state asked := by
  obtain ⟨query, fate⟩ := asked
  obtain ⟨netid, info, kept⟩ := ask_identify router network state fate
  cases query with
  | netid =>
      rw [ask, consult, Query.run, Query.request]
      dsimp only
      rw [netid, kept]
  | info =>
      rw [ask, consult, Query.run, Query.request]
      dsimp only
      rw [info, kept]
  | route args =>
      rw [ask, consult, run_route, Query.request]
      dsimp only
      rcases args.request_cases with ⟨long, panicked⟩ | ⟨fit, packet, made, size⟩
      · rw [panicked, if_pos long]
        rfl
      · rw [made, Outcome.ok_bind, if_neg (Bool.eq_false_iff.mp fit)]
        dsimp only
        by_cases long : network.limit < args.size
        · have refused := @exchange_refused _ router network fate state _ (size.symm ▸ long)
          rw [if_pos long, Message.sendReceive, refused]
          rfl
        · have short := args.short_of_size
            (Nat.le_trans (Nat.le_of_not_lt long) network.most)
          obtain rfl : packet = built .addRoute ⟨args.netid, 0⟩ (args.calls short) :=
            Outcome.ok.inj (made.symm.trans (args.request_eq short))
          have within : (built .addRoute ⟨args.netid, 0⟩ (args.calls short)).asBytes.length ≤
              network.limit :=
            size.trans_le (Nat.le_of_not_lt long)
          have answered := router.receive_route state short
          have fits : 24 + (row [.addU32 .status (router.setRoute state args.route).1]).length ≤
              576 := by
            simp [row, Call.item, Call.payload]
          rw [if_neg long, sendReceive_arrived within answered fits, readStatus_reply]
          rw [reply_eq] at answered
          rw [exchange_eq within answered]

/-- What the queries return and do to the router in a run is what the router would do if it
were asked without any messages, whatever becomes of each request and reply. -/
theorem queries_refine (state : S) (asked : List (Query × Fate)) :
    transduce (network.ask router) state asked = transduce (network.consult router) state asked := by
  have same : network.ask router = network.consult router := by
    funext state asked
    exact ask_eq_consult router network state asked
  rw [same]

/-- A system with a name, its versions, and no fingerprint. -/
def box : Announcement where
  system := {
    addr := ⟨.new 1 2 3 4 5 6, 10000⟩
    hostname := some "box"
    twincatVersion := some (4, 1, 7)
    osRelease := some ⟨0, 5, 8, 9, .windows 2 (Nat.le_refl 2) "Test" (by decide) []⟩
    fingerprint := none }
  calls := [.addStr .computerName "box" (by decide),
    .addBytes .osVersion [0, 0, 0, 0, 5, 0, 0, 0, 8, 0, 0, 0, 9, 0, 0, 0, 2, 0, 0, 0,
      84, 0, 101, 0, 115, 0, 116, 0, 0, 0] (by decide),
    .addBytes .tcVersion [4, 1, 7, 0] (by decide)]
  hostname := rfl
  twincatVersion := rfl
  osRelease := by decide
  fingerprint := rfl
  fits := by decide

/-- A router that adds a route by its name, and counts the routes it has. -/
def boxRouter : Router Nat where
  announce _ := box
  setRoute count route := if route.routename = "route" then (0, count + 1) else (1, count)

/-- A network of common datagrams. -/
def ethernet : Network :=
  ⟨1472, by decide, by decide, .other, .wouldBlock⟩

/-- A route to a computer, by default under its own name. -/
def routeTo (routename : Option String) : RouteArgs :=
  ⟨.new 1 2 3 4 5 6, "a", routename, none, none, false⟩

example :
    transduce (ethernet.ask boxRouter) 0 [(.netid, .delivered), (.info, .delivered),
        (.route (routeTo (some "route")), .replyLost), (.route (routeTo none), .delivered)] =
      some ([.netid (.ok (.new 1 2 3 4 5 6)),
        .info (.ok ⟨.new 1 2 3 4 5 6, "box", (4, 1, 7), ("Windows NT", 5, 8, 9, "Test"), ""⟩),
        .route (.err (.io "receiving UDP reply" .wouldBlock)),
        .route (.err (adsError "setting route" 1))], 1) := by
  decide +kernel

end Network

end Ads.Udp
