import AbstractFramework.Lib.SortedMap
import AbstractFramework.Objects.AccountIdJson

/-! # Memos of forwarded packets

The memo of a packet says through which channels it is forwarded.  A builder collects the
hops and wraps them into one another from the last one on, so that a chain reads its own hop
at the top and sends the rest along.  `unroll` reads the hops of a memo, and
`memo_encodes_route` compares them with the calls that the memo was built with.
-/

namespace AbstractFramework.Sdk

open AbstractFramework Fallible

/-! ## Values -/

/-- `serde_cw_value::Value`, as far as memos go.  The keys of their maps are texts, in
    ascending order. -/
inductive Value where
  | String (text : String)
  | U8 (n : UInt8)
  | Map (entries : List (String × Value))

mutual

/-- `to_json_string`. -/
def Value.toJson : Value → List Char
  | .String text => jsonString text
  | .U8 n => n.toNat.repr.toList
  | .Map entries => '\x7b' :: ([','].intercalate (membersJson entries) ++ ['\x7d'])

def membersJson : List (String × Value) → List (List Char)
  | [] => []
  | e :: entries => memberJson e :: membersJson entries

def memberJson : String × Value → List Char
  | (key, value) => jsonString key ++ ':' :: value.toJson

end

/-! ## The builder -/

structure PacketForwardMiddlewareHop where
  channel : String
  timeout : Option String
  retries : Option UInt8
deriving DecidableEq, Repr

def PacketForwardMiddlewareHop.new (channel : String) : PacketForwardMiddlewareHop where
  channel := channel
  timeout := none
  retries := none

structure PfmMemoBuilder where
  port : Option String
  hops : List PacketForwardMiddlewareHop
deriving DecidableEq, Repr

/-- Forward structure. -/
structure ForwardMemo where
  receiver : Option String
  port : String
  channel : String
  timeout : Option String
  retries : Option UInt8
deriving DecidableEq, Repr

def ForwardMemo.buildValueMap (forward : ForwardMemo) : List (String × Value) :=
  let receiver := forward.receiver.getD "pfm"
  let forwardValue := SortedMap.ofList [
    ("receiver", .String receiver),
    ("port", .String forward.port),
    ("channel", .String forward.channel)]
  let forwardValue := match forward.timeout with
    | some timeout => SortedMap.insert "timeout" (.String timeout) forwardValue
    | none => forwardValue
  match forward.retries with
  | some retries => SortedMap.insert "retries" (.U8 retries) forwardValue
  | none => forwardValue

/-- Changes the last element, if there is one. -/
def updateLast {α : Type} (update : α → α) : List α → List α
  | [] => []
  | [last] => [update last]
  | first :: rest => first :: updateLast update rest

namespace PfmMemoBuilder

/-- Forward memo builder. -/
def new (firstHopChannel : String) : PfmMemoBuilder where
  port := none
  hops := [.new firstHopChannel]

/-- Port, defaults to "transfer". -/
def withPort (self : PfmMemoBuilder) (port : String) : PfmMemoBuilder :=
  { self with port := some port }

/-- Channel hop. -/
def hop (self : PfmMemoBuilder) (channel : String) : PfmMemoBuilder :=
  { self with hops := self.hops ++ [.new channel] }

/-- Hop modifier (applies only on last added hop). -/
def timeout (self : PfmMemoBuilder) (timeout : String) : PfmMemoBuilder :=
  { self with hops := updateLast (fun lastHop => { lastHop with timeout := some timeout }) self.hops }

/-- Hop modifier (applies only on last added hop). -/
def retries (self : PfmMemoBuilder) (retries : UInt8) : PfmMemoBuilder :=
  { self with hops := updateLast (fun lastHop => { lastHop with retries := some retries }) self.hops }

def forwards (self : PfmMemoBuilder) (receiver : String) : List ForwardMemo :=
  let port := self.port.getD "transfer"
  let forwards := self.hops.map fun hop =>
    { receiver := none, port, channel := hop.channel, timeout := hop.timeout, retries := hop.retries }
  -- Destination have to know receiver
  updateLast (fun lastHop => { lastHop with receiver := some receiver }) forwards

/-- One round of the loop: the forwards so far become the next of this one. -/
def wrap (head : List (String × Value)) (forward : ForwardMemo) : List (String × Value) :=
  let forwardMsg := forward.buildValueMap
  let forwardMsg :=
    if head.isEmpty then forwardMsg else SortedMap.insert "next" (.Map head) forwardMsg
  SortedMap.ofList [("forward", .Map forwardMsg)]

/-- The value that `build` serialises: the message is built from behind. -/
def buildValue (self : PfmMemoBuilder) (receiver : String) : Value :=
  .Map ((self.forwards receiver).reverse.foldl wrap [])

/-- Build the memo json string. -/
def build (self : PfmMemoBuilder) (receiver : String) : Except StdError String :=
  .ok (String.ofList (self.buildValue receiver).toJson)

end PfmMemoBuilder

example : ((((PfmMemoBuilder.new "channel-1").withPort "port").retries 4).hop "channel-2").build "foo" =
    .ok ("\x7b\"forward\":\x7b\"channel\":\"channel-1\",\"next\":\x7b\"forward\":" ++
      "\x7b\"channel\":\"channel-2\",\"port\":\"port\",\"receiver\":\"foo\"\x7d\x7d," ++
      "\"port\":\"port\",\"receiver\":\"pfm\",\"retries\":4\x7d\x7d") := by
  decide +kernel

/-! ## Calls of the builder -/

inductive PfmCall where
  | Port (port : String)
  | Hop (channel : String)
  | Timeout (timeout : String)
  | Retries (retries : UInt8)
deriving DecidableEq, Repr

namespace PfmCall

def port : PfmCall → Option String
  | .Port port => some port
  | _ => none

def channel : PfmCall → Option String
  | .Hop channel => some channel
  | _ => none

def timeout : PfmCall → Option String
  | .Timeout timeout => some timeout
  | _ => none

def retries : PfmCall → Option UInt8
  | .Retries retries => some retries
  | _ => none

end PfmCall

def PfmMemoBuilder.call (self : PfmMemoBuilder) : PfmCall → PfmMemoBuilder
  | .Port port => self.withPort port
  | .Hop channel => self.hop channel
  | .Timeout timeout => self.timeout timeout
  | .Retries retries => self.retries retries

/-- The builder after the calls. -/
def PfmMemoBuilder.after (firstHopChannel : String) (calls : List PfmCall) : PfmMemoBuilder :=
  calls.foldl PfmMemoBuilder.call (.new firstHopChannel)

/-- What the calls set last. -/
def lastSet {α : Type} (setting : PfmCall → Option α) (calls : List PfmCall) : Option α :=
  (calls.filterMap setting).getLast?

/-- The calls before the next hop, and every later hop with the calls before the one after it. -/
def splitAtHops : List PfmCall → List PfmCall × List (String × List PfmCall)
  | [] => ([], [])
  | .Hop channel :: calls => ([], (channel, (splitAtHops calls).1) :: (splitAtHops calls).2)
  | call :: calls => (call :: (splitAtHops calls).1, (splitAtHops calls).2)

/-- The channel of every hop, with the calls that are about it. -/
def legs (firstHopChannel : String) (calls : List PfmCall) : List (String × List PfmCall) :=
  (firstHopChannel, (splitAtHops calls).1) :: (splitAtHops calls).2

/-! ## The route of a memo -/

/-- A forward, as the middleware reads it. -/
structure Forward where
  receiver : String
  port : String
  channel : String
  timeout : Option String
  retries : Option UInt8
deriving DecidableEq, Repr

def textOf : Value → Option String
  | .String text => some text
  | _ => none

def numberOf : Value → Option UInt8
  | .U8 n => some n
  | _ => none

/-- A field that may be left out. -/
def optional {α : Type} (read : Value → Option α) : Option Value → Option (Option α)
  | some value => (read value).map some
  | none => some none

def readForward (fields : List (String × Value)) : Option Forward := do
  let receiver ← (fields.lookup "receiver").bind textOf
  let port ← (fields.lookup "port").bind textOf
  let channel ← (fields.lookup "channel").bind textOf
  let timeout ← optional textOf (fields.lookup "timeout")
  let retries ← optional numberOf (fields.lookup "retries")
  return { receiver, port, channel, timeout, retries }

theorem sizeOf_lookup_lt {fields : List (String × Value)} {key : String} {value : Value}
    (found : fields.lookup key = some value) : sizeOf value < sizeOf fields := by
  induction fields with
  | nil => cases found
  | cons e fields ih =>
    rw [SortedMap.lookup_cons_ite] at found
    obtain ⟨key', value'⟩ := e
    simp only [List.cons.sizeOf_spec, Prod.mk.sizeOf_spec]
    split at found
    · obtain rfl : value' = value := Option.some.inj found
      omega
    · have := ih found
      omega

/-- The forwards of a memo, from the first chain to the last one. -/
def unroll : Value → Option (List Forward)
  | .Map [("forward", .Map fields)] => do
    let forward ← readForward fields
    match _found : fields.lookup "next" with
    | some next => do
      let later ← unroll next
      return forward :: later
    | none => return [forward]
  | _ => none
termination_by value => sizeOf value
decreasing_by
  have := sizeOf_lookup_lt _found
  simp
  omega

/-! ## What is read of a built memo -/

/-- What the middleware reads of a forward. -/
def ForwardMemo.read (forward : ForwardMemo) : Forward where
  receiver := forward.receiver.getD "pfm"
  port := forward.port
  channel := forward.channel
  timeout := forward.timeout
  retries := forward.retries

theorem lookup_buildValueMap (forward : ForwardMemo) (key : String) :
    forward.buildValueMap.lookup key =
      if key = "retries" ∧ forward.retries.isSome then forward.retries.map Value.U8
      else if key = "timeout" ∧ forward.timeout.isSome then forward.timeout.map Value.String
      else if key = "channel" then some (.String forward.channel)
      else if key = "port" then some (.String forward.port)
      else if key = "receiver" then some (.String (forward.receiver.getD "pfm"))
      else none := by
  unfold ForwardMemo.buildValueMap SortedMap.ofList
  cases forward.timeout <;> cases forward.retries <;>
    simp

theorem readForward_eq {forward : ForwardMemo} {fields : List (String × Value)}
    (same : ∀ key, key ≠ "next" → fields.lookup key = forward.buildValueMap.lookup key) :
    readForward fields = some forward.read := by
  have receiver : fields.lookup "receiver" = some (.String (forward.receiver.getD "pfm")) := by
    rw [same _ (by decide), lookup_buildValueMap]
    simp
  have port : fields.lookup "port" = some (.String forward.port) := by
    rw [same _ (by decide), lookup_buildValueMap]
    simp
  have channel : fields.lookup "channel" = some (.String forward.channel) := by
    rw [same _ (by decide), lookup_buildValueMap]
    simp
  have timeout : fields.lookup "timeout" = forward.timeout.map Value.String := by
    rw [same _ (by decide), lookup_buildValueMap]
    cases forward.timeout <;> simp
  have retries : fields.lookup "retries" = forward.retries.map Value.U8 := by
    rw [same _ (by decide), lookup_buildValueMap]
    cases forward.retries <;> simp
  rw [readForward, receiver, port, channel, timeout, retries]
  rcases forward with ⟨_, _, _, _ | _, _ | _⟩ <;> rfl

/-- The innermost forward ends the route. -/
theorem unroll_wrap_nil (forward : ForwardMemo) :
    unroll (.Map (PfmMemoBuilder.wrap [] forward)) = some [forward.read] := by
  have fields : PfmMemoBuilder.wrap [] forward = [("forward", .Map forward.buildValueMap)] := rfl
  have read : readForward forward.buildValueMap = some forward.read :=
    readForward_eq fun _ _ => rfl
  have next : forward.buildValueMap.lookup "next" = none := by
    rw [lookup_buildValueMap]
    simp
  rw [fields, unroll, read]
  simp only [Option.bind_eq_bind, Option.bind_some]
  split
  · rename_i found
    rw [next] at found
    cases found
  · rfl

/-- A forward that is wrapped around a memo comes before its route. -/
theorem unroll_wrap {head : List (String × Value)} (nonempty : head ≠ []) (forward : ForwardMemo) :
    unroll (.Map (PfmMemoBuilder.wrap head forward)) =
      (unroll (.Map head)).map (forward.read :: ·) := by
  have fields : PfmMemoBuilder.wrap head forward =
      [("forward", .Map (SortedMap.insert "next" (.Map head) forward.buildValueMap))] := by
    simp [PfmMemoBuilder.wrap, SortedMap.ofList, SortedMap.insert, nonempty]
  have read : readForward (SortedMap.insert "next" (.Map head) forward.buildValueMap) =
      some forward.read := by
    apply readForward_eq
    intro key other
    rw [SortedMap.lookup_insert, if_neg other]
  have next : (SortedMap.insert "next" (.Map head) forward.buildValueMap).lookup "next" =
      some (.Map head) := by
    rw [SortedMap.lookup_insert, if_pos rfl]
  rw [fields, unroll, read]
  simp only [Option.bind_eq_bind, Option.bind_some]
  split
  · rename_i found
    rw [next, Option.some.injEq] at found
    rw [← found]
    cases unroll (.Map head) <;> rfl
  · rename_i missing
    rw [next] at missing
    cases missing

theorem unroll_forwards {forwards : List ForwardMemo} (nonempty : forwards ≠ []) :
    unroll (.Map (forwards.reverse.foldl PfmMemoBuilder.wrap [])) =
      some (forwards.map ForwardMemo.read) := by
  rw [List.foldl_reverse]
  induction forwards with
  | nil => exact absurd rfl nonempty
  | cons forward later ih =>
    rw [List.foldr_cons]
    cases later with
    | nil => exact unroll_wrap_nil forward
    | cons next rest =>
      have inner := ih (List.cons_ne_nil next rest)
      rw [unroll_wrap ?_, inner]
      · rfl
      · rw [List.foldr_cons]
        exact List.cons_ne_nil _ _

/-! ## The hops of a builder -/

theorem updateLast_append {α : Type} (update : α → α) (before : List α) (last : α) :
    updateLast update (before ++ [last]) = before ++ [update last] := by
  induction before with
  | nil => rfl
  | cons first before ih =>
    cases before with
    | nil => rfl
    | cons second rest =>
      rw [List.cons_append, List.cons_append, updateLast, ← List.cons_append, ih]
      · rfl
      · simp

theorem lastSet_cons {α : Type} (setting : PfmCall → Option α) (call : PfmCall)
    (calls : List PfmCall) :
    lastSet setting (call :: calls) = (lastSet setting calls).or (setting call) := by
  unfold lastSet
  rw [List.filterMap_cons]
  cases setting call with
  | none => simp
  | some value => rw [List.getLast?_cons]; cases (calls.filterMap setting).getLast? <;> rfl

/-- A hop after the calls that are about it. -/
def PacketForwardMiddlewareHop.after (hop : PacketForwardMiddlewareHop) (calls : List PfmCall) :
    PacketForwardMiddlewareHop where
  channel := hop.channel
  timeout := (lastSet PfmCall.timeout calls).or hop.timeout
  retries := (lastSet PfmCall.retries calls).or hop.retries

/-- The hops added last are those that the calls still change. -/
theorem hops_calls (calls : List PfmCall) (port : Option String)
    (before : List PacketForwardMiddlewareHop) (last : PacketForwardMiddlewareHop) :
    (calls.foldl PfmMemoBuilder.call { port, hops := before ++ [last] }).hops =
      before ++ last.after (splitAtHops calls).1 ::
        (splitAtHops calls).2.map fun leg => (PacketForwardMiddlewareHop.new leg.1).after leg.2 := by
  induction calls generalizing port before last with
  | nil => rfl
  | cons call calls ih =>
    rw [List.foldl_cons]
    cases call with
    | Port port =>
      rw [PfmMemoBuilder.call, PfmMemoBuilder.withPort, ih]
      simp [splitAtHops, PacketForwardMiddlewareHop.after, lastSet_cons, PfmCall.timeout, PfmCall.retries]
    | Hop channel =>
      rw [PfmMemoBuilder.call, PfmMemoBuilder.hop, ih]
      simp [splitAtHops, PacketForwardMiddlewareHop.after, lastSet]
    | Timeout timeout =>
      rw [PfmMemoBuilder.call, PfmMemoBuilder.timeout, updateLast_append, ih]
      simp [splitAtHops, PacketForwardMiddlewareHop.after, lastSet_cons, PfmCall.timeout, PfmCall.retries]
    | Retries retries =>
      rw [PfmMemoBuilder.call, PfmMemoBuilder.retries, updateLast_append, ih]
      simp [splitAtHops, PacketForwardMiddlewareHop.after, lastSet_cons, PfmCall.timeout, PfmCall.retries]

theorem port_calls (calls : List PfmCall) (builder : PfmMemoBuilder) :
    (calls.foldl PfmMemoBuilder.call builder).port =
      (lastSet PfmCall.port calls).or builder.port := by
  induction calls generalizing builder with
  | nil => rfl
  | cons call calls ih =>
    rw [List.foldl_cons, ih, lastSet_cons]
    cases call <;> simp [PfmMemoBuilder.call, PfmMemoBuilder.withPort, PfmMemoBuilder.hop,
      PfmMemoBuilder.timeout, PfmMemoBuilder.retries, PfmCall.port]

theorem legs_channels (firstHopChannel : String) (calls : List PfmCall) :
    (legs firstHopChannel calls).map Prod.fst =
      firstHopChannel :: calls.filterMap PfmCall.channel := by
  rw [legs, List.map_cons]
  congr 1
  induction calls with
  | nil => rfl
  | cons call calls ih =>
    cases call <;> simp [splitAtHops, PfmCall.channel, List.filterMap_cons, ih]

theorem hops_after (firstHopChannel : String) (calls : List PfmCall) :
    (PfmMemoBuilder.after firstHopChannel calls).hops =
      (legs firstHopChannel calls).map fun leg =>
        (PacketForwardMiddlewareHop.new leg.1).after leg.2 :=
  hops_calls calls none [] (.new firstHopChannel)

theorem hops_channels (firstHopChannel : String) (calls : List PfmCall) :
    (PfmMemoBuilder.after firstHopChannel calls).hops.map PacketForwardMiddlewareHop.channel =
      firstHopChannel :: calls.filterMap PfmCall.channel := by
  rw [hops_after, List.map_map, ← legs_channels]
  rfl

/-- Each hop has what the calls that are about it set last. -/
theorem hops_settings (firstHopChannel : String) (calls : List PfmCall) :
    (PfmMemoBuilder.after firstHopChannel calls).hops.map
        (fun hop => (hop.channel, hop.timeout, hop.retries)) =
      (legs firstHopChannel calls).map (fun leg =>
        (leg.1, lastSet PfmCall.timeout leg.2, lastSet PfmCall.retries leg.2)) := by
  rw [hops_after, List.map_map]
  refine List.map_congr_left fun leg _ => ?_
  simp [PacketForwardMiddlewareHop.after, PacketForwardMiddlewareHop.new]

theorem port_after (firstHopChannel : String) (calls : List PfmCall) :
    (PfmMemoBuilder.after firstHopChannel calls).port = lastSet PfmCall.port calls := by
  rw [PfmMemoBuilder.after, port_calls]
  exact Option.or_none

/-- The forwards of a builder as they are read: the last hop gets to know the receiver. -/
theorem read_forwards {builder : PfmMemoBuilder} {before : List PacketForwardMiddlewareHop}
    {last : PacketForwardMiddlewareHop} (hops : builder.hops = before ++ [last])
    (receiver : String) :
    (builder.forwards receiver).map ForwardMemo.read =
      before.map (fun hop => ⟨"pfm", builder.port.getD "transfer", hop.channel, hop.timeout,
          hop.retries⟩) ++
        [⟨receiver, builder.port.getD "transfer", last.channel, last.timeout, last.retries⟩] := by
  simp only [PfmMemoBuilder.forwards, hops, List.map_append, List.map_singleton, updateLast_append,
    List.map_map]
  rfl

/-- The route of a memo has one forward for each hop, in the order in which they were added. -/
theorem memo_encodes_route (firstHopChannel : String) (calls : List PfmCall) (receiver : String) :
    (PfmMemoBuilder.after firstHopChannel calls).build receiver = .ok (String.ofList
        ((PfmMemoBuilder.after firstHopChannel calls).buildValue receiver).toJson) ∧
      ∃ forwards,
        unroll ((PfmMemoBuilder.after firstHopChannel calls).buildValue receiver) = some forwards ∧
        forwards.map Forward.channel = firstHopChannel :: calls.filterMap PfmCall.channel ∧
        forwards.map (fun forward => (forward.channel, forward.timeout, forward.retries)) =
          (legs firstHopChannel calls).map (fun leg =>
            (leg.1, lastSet PfmCall.timeout leg.2, lastSet PfmCall.retries leg.2)) ∧
        (∀ forward ∈ forwards, forward.port = (lastSet PfmCall.port calls).getD "transfer") ∧
        forwards.map Forward.receiver =
          List.replicate (calls.filterMap PfmCall.channel).length "pfm" ++ [receiver] := by
  have channels := hops_channels firstHopChannel calls
  have settings := hops_settings firstHopChannel calls
  have port := port_after firstHopChannel calls
  generalize PfmMemoBuilder.after firstHopChannel calls = builder at channels settings port
  have nonempty : builder.hops ≠ [] := by
    intro none
    rw [none] at channels
    cases channels
  obtain ⟨before, last, split⟩ : ∃ before last, builder.hops = before ++ [last] :=
    ⟨_, _, (List.dropLast_append_getLast nonempty).symm⟩
  have count : before.length = (calls.filterMap PfmCall.channel).length := by
    have lengths := congrArg List.length channels
    rw [split] at lengths
    simpa using lengths
  have some_forward : builder.forwards receiver ≠ [] := by
    intro none
    have read := read_forwards split receiver
    rw [none] at read
    exact List.append_ne_nil_of_right_ne_nil _ (List.cons_ne_nil _ _) read.symm
  refine ⟨rfl, _, unroll_forwards some_forward, ?_⟩
  rw [read_forwards split, port]
  refine ⟨?_, ?_, ?_, ?_⟩
  · rw [← channels, split]
    simp
  · rw [← settings, split]
    simp
  · intro forward listed
    rcases List.mem_append.mp listed with early | final
    · obtain ⟨hop, -, rfl⟩ := List.mem_map.mp early
      rfl
    · rw [List.mem_singleton.mp final]
  · rw [← count]
    simp [Function.comp_def]

end AbstractFramework.Sdk
