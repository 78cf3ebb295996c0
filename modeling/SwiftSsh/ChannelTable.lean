import Mathlib.Data.List.AList
import SwiftSsh.WireTypes

namespace SwiftSsh.ChannelTable

open SwiftSsh.ByteWords
open SwiftSsh.RustOutcome
open SwiftSsh.WireTypes

/-- What each side keeps about a channel. -/
structure Channel where
  localId : UInt32
  remoteId : UInt32
  channelType : String
  localWindow : UInt32
  remoteWindow : UInt32
  localMaxPacket : UInt32
  remoteMaxPacket : UInt32
  eofSent : Bool
  eofReceived : Bool
  closed : Bool
  recvBuffer : Bytes
  deriving DecidableEq

/-- A channel whose other side is not known yet. -/
def newChannel (localId : UInt32) (channelType : String) : Channel where
  localId := localId
  remoteId := 0
  channelType := channelType
  localWindow := defaultWindowSize
  remoteWindow := 0
  localMaxPacket := defaultMaxPacketSize
  remoteMaxPacket := 0
  eofSent := false
  eofReceived := false
  closed := false
  recvBuffer := []

/-- A channel under its local number. -/
abbrev Entry := Sigma fun _ : UInt32 => Channel

/-- The channels by their local numbers, and the number of the next one. -/
structure ChannelManager where
  channels : AList fun _ : UInt32 => Channel
  nextId : UInt32

/-- A table without channels. -/
def newChannelManager : ChannelManager :=
  ⟨∅, 0⟩

/-- Register a channel opened by the remote side. The next number wraps around
at the end of its type. -/
def acceptChannel (manager : ChannelManager) (remoteId : UInt32) (channelType : String)
    (remoteWindow remoteMaxPacket : UInt32) : UInt32 × ChannelManager :=
  let localId := manager.nextId
  let channel := { newChannel localId channelType with
    remoteId := remoteId
    remoteWindow := remoteWindow
    remoteMaxPacket := remoteMaxPacket }
  (localId, ⟨manager.channels.insert localId channel, manager.nextId + 1⟩)

/-- Open a channel on this side. -/
def openChannel (manager : ChannelManager) (channelType : String) : UInt32 × ChannelManager :=
  let localId := manager.nextId
  (localId, ⟨manager.channels.insert localId (newChannel localId channelType),
    manager.nextId + 1⟩)

/-- The channel with a local number. -/
def ChannelManager.get (manager : ChannelManager) (localId : UInt32) : Option Channel :=
  manager.channels.lookup localId

/-- `u32::saturating_add`. -/
def saturatingAdd (a b : UInt32) : UInt32 :=
  UInt32.ofNat (min (a.toNat + b.toNat) (2 ^ 32 - 1))

/-- The operations that work on the channel with a local number, in its place in the
table. They return with the table they leave, also when they fail. -/
def changeLocal (manager : ChannelManager) (localId : UInt32)
    (change : Channel → Outcome SshError Unit × Channel) :
    Outcome SshError Unit × ChannelManager :=
  match manager.get localId with
  | some channel =>
      let changed := change channel
      (changed.1, { manager with channels := manager.channels.replace localId changed.2 })
  | none => (.err (.channel s!"Unknown channel {localId}"), manager)

/-- Set the remote parameters after CHANNEL_OPEN_CONFIRMATION. -/
def confirmChannel (manager : ChannelManager)
    (localId remoteId remoteWindow remoteMaxPacket : UInt32) :
    Outcome SshError Unit × ChannelManager :=
  changeLocal manager localId fun channel =>
    (.ok (), { channel with
      remoteId := remoteId
      remoteWindow := remoteWindow
      remoteMaxPacket := remoteMaxPacket })

/-- Push received data into a channel's buffer. The length is cut to 32 bits
before it is compared with the window. -/
def receiveData (manager : ChannelManager) (localId : UInt32) (data : Bytes) :
    Outcome SshError Unit × ChannelManager :=
  changeLocal manager localId fun channel =>
    if UInt32.ofNat data.length > channel.localWindow then
      (.err (.channel "Window overflow"), channel)
    else (.ok (), { channel with
      localWindow := channel.localWindow - UInt32.ofNat data.length
      recvBuffer := channel.recvBuffer ++ data })

/-- Take from the window of the remote side what is sent. -/
def consumeRemoteWindow (manager : ChannelManager) (localId amount : UInt32) :
    Outcome SshError Unit × ChannelManager :=
  changeLocal manager localId fun channel =>
    if amount > channel.remoteWindow then
      (.err (.channel "Would exceed remote window"), channel)
    else (.ok (), { channel with remoteWindow := channel.remoteWindow - amount })

/-- Widen the window of this side. -/
def adjustLocalWindow (manager : ChannelManager) (localId amount : UInt32) :
    Outcome SshError Unit × ChannelManager :=
  changeLocal manager localId fun channel =>
    (.ok (), { channel with localWindow := saturatingAdd channel.localWindow amount })

/-- Remove a channel and return it. -/
def removeChannel (manager : ChannelManager) (localId : UInt32) :
    Option Channel × ChannelManager :=
  (manager.get localId, { manager with channels := manager.channels.erase localId })

/-- The order in which a hash map visits its entries. -/
structure HashOrder where
  arrange : List Entry → List Entry
  arrange_perm : ∀ entries, (arrange entries).Perm entries

variable (order : HashOrder)

/-- The first channel, in the order of the table, that has this number of the other side. -/
def findEntry (manager : ChannelManager) (remoteId : UInt32) : Option Entry :=
  (order.arrange manager.channels.entries).find? fun entry =>
    decide (entry.2.remoteId = remoteId)

/-- `find_by_remote_id`, which hands out the channel without its local number. -/
def findByRemoteId (manager : ChannelManager) (remoteId : UInt32) : Option Channel :=
  (findEntry order manager remoteId).map Sigma.snd

/-- Change the channel that `find_by_remote_id_mut` returns. -/
def updateByRemoteId (manager : ChannelManager) (remoteId : UInt32)
    (change : Channel → Channel) : ChannelManager :=
  match findEntry order manager remoteId with
  | some entry =>
      { manager with channels := manager.channels.insert entry.1 (change entry.2) }
  | none => manager

@[simp] theorem nextId_updateByRemoteId (manager : ChannelManager) (remoteId : UInt32)
    (change : Channel → Channel) :
    (updateByRemoteId order manager remoteId change).nextId = manager.nextId := by
  rw [updateByRemoteId]
  split <;> rfl

variable {order} {manager : ChannelManager} {remoteId : UInt32}

theorem get_insert (channels : AList fun _ : UInt32 => Channel) (key localId nextId : UInt32)
    (channel : Channel) :
    ChannelManager.get ⟨channels.insert key channel, nextId⟩ localId =
      if localId = key then some channel else channels.lookup localId := by
  rw [ChannelManager.get]
  split
  · rename_i heq
    rw [heq, AList.lookup_insert]
  · rename_i hne
    rw [AList.lookup_insert_ne hne]

theorem dlookup_kreplace {α β : Type} [DecidableEq α] (key other : α) (value : β)
    (entries : List (Sigma fun _ : α => β)) :
    (entries.kreplace key value).dlookup other =
      if other = key then (entries.dlookup other).map fun _ => value
      else entries.dlookup other := by
  induction entries with
  | nil => simp [List.kreplace]
  | cons entry entries ih =>
      obtain ⟨first, old⟩ := entry
      rw [List.kreplace] at ih ⊢
      by_cases hfirst : key = first
      · subst hfirst
        have hplaced : (if key = key then some (⟨key, value⟩ : Sigma fun _ : α => β) else none) =
            some ⟨key, value⟩ := if_pos rfl
        rw [List.lookmap_cons_some _ _ hplaced]
        by_cases heq : other = key
        · subst heq
          simp [List.dlookup_cons_eq]
        · rw [List.dlookup_cons_ne _ _ heq, if_neg heq, List.dlookup_cons_ne _ _ heq]
      · have hkept : (if key = first then some (⟨key, value⟩ : Sigma fun _ : α => β) else none) =
            none := if_neg hfirst
        rw [List.lookmap_cons_none _ _ hkept]
        by_cases heq : other = first
        · subst heq
          rw [List.dlookup_cons_eq, if_neg (Ne.symm hfirst), List.dlookup_cons_eq]
        · rw [List.dlookup_cons_ne _ _ heq, List.dlookup_cons_ne _ _ heq, ih]

theorem get_replace {channel : Channel} {key : UInt32} (hget : manager.get key = some channel)
    (localId : UInt32) (changed : Channel) :
    ChannelManager.get { manager with channels := manager.channels.replace key changed } localId =
      if localId = key then some changed else manager.get localId := by
  have hlookup := dlookup_kreplace key localId changed manager.channels.entries
  change (manager.channels.entries.kreplace key changed).dlookup localId = _
  rw [hlookup]
  split
  · rename_i heq
    rw [heq]
    change (manager.get key).map _ = _
    rw [hget]
    rfl
  · rfl

theorem replace_self {channel : Channel} {key : UInt32} (hget : manager.get key = some channel) :
    manager.channels.replace key channel = manager.channels := by
  apply AList.ext
  exact List.kreplace_self manager.channels.nodupKeys (AList.mem_lookup_iff.mp hget)

theorem mem_arrange {entry : Entry} :
    entry ∈ order.arrange manager.channels.entries ↔ manager.get entry.1 = some entry.2 := by
  rw [(order.arrange_perm _).mem_iff, ChannelManager.get, ← Option.mem_def,
    AList.mem_lookup_iff]

theorem findEntry_eq_some {entry : Entry}
    (hfind : findEntry order manager remoteId = some entry) :
    entry.2.remoteId = remoteId ∧ manager.get entry.1 = some entry.2 := by
  refine ⟨?_, ?_⟩
  · have hmatch := List.find?_some hfind
    simpa using hmatch
  · exact mem_arrange.mp (List.mem_of_find?_eq_some hfind)

theorem findEntry_eq_none :
    findEntry order manager remoteId = none ↔
      ∀ localId channel, manager.get localId = some channel → channel.remoteId ≠ remoteId := by
  rw [findEntry, List.find?_eq_none]
  constructor
  · intro hnone localId channel hget hremote
    exact hnone ⟨localId, channel⟩ (mem_arrange.mpr hget) (by simpa using hremote)
  · intro hnone entry hmem hremote
    exact hnone entry.1 entry.2 (mem_arrange.mp hmem) (by simpa using hremote)

theorem remoteId_of_findByRemoteId {channel : Channel}
    (hfind : findByRemoteId order manager remoteId = some channel) :
    channel.remoteId = remoteId := by
  obtain ⟨entry, hentry, rfl⟩ := Option.map_eq_some_iff.mp hfind
  exact (findEntry_eq_some hentry).1

theorem updateByRemoteId_of_none (hfind : findEntry order manager remoteId = none)
    (change : Channel → Channel) :
    updateByRemoteId order manager remoteId change = manager := by
  rw [updateByRemoteId, hfind]

/-- Both sides use the same numbers. -/
def InStep (manager : ChannelManager) : Prop :=
  ∀ localId channel, manager.get localId = some channel → channel.remoteId = localId

theorem findEntry_of_inStep (hstep : InStep manager) :
    findEntry order manager remoteId = (manager.get remoteId).map (Sigma.mk remoteId) := by
  cases hget : manager.get remoteId with
  | none =>
      rw [Option.map_none, findEntry_eq_none]
      intro localId channel hfound hremote
      obtain rfl : localId = remoteId := (hstep localId channel hfound).symm.trans hremote
      rw [hget] at hfound
      cases hfound
  | some channel =>
      cases hfind : findEntry order manager remoteId with
      | none =>
          have habsent := findEntry_eq_none.mp hfind remoteId channel hget
          exact absurd (hstep remoteId channel hget) habsent
      | some entry =>
          -- The entry found stands under its own remote number.
          obtain ⟨hremote, hfound⟩ := findEntry_eq_some hfind
          have hkey : entry.1 = remoteId := (hstep _ _ hfound).symm.trans hremote
          obtain ⟨localId, found⟩ := entry
          dsimp only at hkey hfound
          subst hkey
          rw [hget] at hfound
          cases hfound
          rfl

theorem findByRemoteId_of_inStep (hstep : InStep manager) :
    findByRemoteId order manager remoteId = manager.get remoteId := by
  rw [findByRemoteId, findEntry_of_inStep hstep, Option.map_map]
  exact Option.map_id'

theorem get_updateByRemoteId {entry : Entry}
    (hfind : findEntry order manager remoteId = some entry) (change : Channel → Channel)
    (localId : UInt32) :
    (updateByRemoteId order manager remoteId change).get localId =
      if localId = entry.1 then some (change entry.2) else manager.get localId := by
  rw [updateByRemoteId, hfind]
  exact get_insert _ _ _ _ _

theorem get_updateByRemoteId_of_inStep (hstep : InStep manager) (change : Channel → Channel)
    (localId : UInt32) :
    (updateByRemoteId order manager remoteId change).get localId =
      if localId = remoteId then (manager.get localId).map change else manager.get localId := by
  have hfind := @findEntry_of_inStep order manager remoteId hstep
  cases hget : manager.get remoteId with
  | none =>
      rw [hget, Option.map_none] at hfind
      rw [updateByRemoteId_of_none hfind]
      split
      · rename_i heq
        rw [heq, hget, Option.map_none]
      · rfl
  | some channel =>
      rw [hget, Option.map_some] at hfind
      rw [get_updateByRemoteId hfind]
      split
      · rename_i heq
        rw [heq, hget, Option.map_some]
      · rfl

/-- The table after the remote side opened channels with the given numbers. The
local numbers wrap around, and a channel then takes the place of an older one. -/
structure OpenedBy (senders : List UInt32) (manager : ChannelManager) : Prop where
  nextId : manager.nextId = UInt32.ofNat senders.length
  stored : ∀ localId channel, manager.get localId = some channel →
    ∃ k, localId = UInt32.ofNat k ∧ senders[k]? = some channel.remoteId
  present : ∀ k, k < senders.length → ∃ channel, manager.get (UInt32.ofNat k) = some channel

theorem openedBy_new : OpenedBy [] newChannelManager := by
  refine ⟨rfl, ?_, ?_⟩
  · intro localId channel hget
    rw [ChannelManager.get, newChannelManager, AList.lookup_empty] at hget
    cases hget
  · intro k hk
    cases hk

theorem get_acceptChannel (manager : ChannelManager) (remoteId : UInt32)
    (channelType : String) (remoteWindow remoteMaxPacket localId : UInt32) :
    (acceptChannel manager remoteId channelType remoteWindow remoteMaxPacket).2.get localId =
      if localId = manager.nextId then
        some { newChannel manager.nextId channelType with
          remoteId := remoteId
          remoteWindow := remoteWindow
          remoteMaxPacket := remoteMaxPacket }
      else manager.get localId :=
  get_insert _ _ _ _ _

theorem OpenedBy.accept {senders : List UInt32} (hopened : OpenedBy senders manager)
    (remoteId : UInt32) (channelType : String) (remoteWindow remoteMaxPacket : UInt32) :
    OpenedBy (senders ++ [remoteId])
      (acceptChannel manager remoteId channelType remoteWindow remoteMaxPacket).2 := by
  constructor
  · change manager.nextId + 1 = _
    rw [hopened.nextId, List.length_append, List.length_singleton, UInt32.ofNat_add]
    rfl
  · intro localId channel hget
    rw [get_acceptChannel] at hget
    split at hget
    · rename_i heq
      cases hget
      refine ⟨senders.length, heq.trans hopened.nextId, ?_⟩
      rw [List.getElem?_concat_length]
    · obtain ⟨k, hlocal, hsender⟩ := hopened.stored localId channel hget
      refine ⟨k, hlocal, ?_⟩
      have hk : k < senders.length := (List.getElem?_eq_some_iff.mp hsender).1
      rw [List.getElem?_append_left hk]
      exact hsender
  · intro k hk
    rw [get_acceptChannel]
    split
    · exact ⟨_, rfl⟩
    · rename_i hne
      have hne' : k ≠ senders.length := by
        rintro rfl
        exact hne hopened.nextId.symm
      rw [List.length_append, List.length_singleton] at hk
      exact hopened.present k (by omega)

theorem OpenedBy.update {senders : List UInt32} (hopened : OpenedBy senders manager)
    {change : Channel → Channel}
    (hchange : ∀ channel, (change channel).remoteId = channel.remoteId) :
    OpenedBy senders (updateByRemoteId order manager remoteId change) := by
  cases hfind : findEntry order manager remoteId with
  | none =>
      rw [updateByRemoteId_of_none hfind]
      exact hopened
  | some entry =>
      obtain ⟨-, hentry⟩ := findEntry_eq_some hfind
      constructor
      · rw [nextId_updateByRemoteId]
        exact hopened.nextId
      · intro localId channel hchannel
        rw [get_updateByRemoteId hfind] at hchannel
        split at hchannel
        · rename_i heq
          cases hchannel
          rw [hchange, heq]
          exact hopened.stored _ _ hentry
        · exact hopened.stored _ _ hchannel
      · intro k hk
        rw [get_updateByRemoteId hfind]
        split
        · exact ⟨_, rfl⟩
        · exact hopened.present k hk

theorem OpenedBy.inStep {senders : List UInt32} (hopened : OpenedBy senders manager)
    (hsenders : ∀ (k : Nat) sender, senders[k]? = some sender → sender = UInt32.ofNat k) :
    InStep manager := by
  intro localId channel hget
  obtain ⟨k, rfl, hsender⟩ := hopened.stored localId channel hget
  exact hsenders k _ hsender

end SwiftSsh.ChannelTable
