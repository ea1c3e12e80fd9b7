import DeviceAndDisplay.Model.DeviceInfo.DeviceInfo

/-! # The addresses of the interfaces

`nodeName` outlives a pass of the loop, so an interface without an address gets the last address
that an earlier interface has. -/

namespace DeviceAndDisplay.DeviceInfo

open Helpers

variable {ν : Type*} (hostAddress : ν → Text)

/-! ### The entry of an interface -/

/-- What is left in `nodeName` behind the interfaces. -/
def nodeNameAfter (interfaces : List (Adapter ν)) : Text :=
  (interfaces.foldl (addAddress hostAddress) ([], [])).1

/-- The entry of an interface behind others. -/
def entryBehind (before : List (Adapter ν)) (interface : Adapter ν) : AddressesInfo :=
  ⟨interface.name, nodeNameAfter hostAddress (before ++ [interface]), interface.macAddress⟩

theorem foldl_hostAddress (nodes : List ν) (nodeName : Text) :
    nodes.foldl (fun _ selectedNode => hostAddress selectedNode) nodeName =
      (nodes.getLast?.map hostAddress).getD nodeName := by
  induction nodes using List.reverseRecOn with
  | nil => rfl
  | append_singleton nodes node _ => simp

/-- The last address of an interface, or else what is there already. -/
theorem nodeNameAfter_append (before : List (Adapter ν)) (interface : Adapter ν) :
    nodeNameAfter hostAddress (before ++ [interface]) =
      (interface.ipv4Addresses.getLast?.map hostAddress).getD
        (nodeNameAfter hostAddress before) := by
  unfold nodeNameAfter
  rw [List.foldl_append, List.foldl_cons, List.foldl_nil]
  exact foldl_hostAddress hostAddress interface.ipv4Addresses _

theorem addresses_concat (interfaces : List (Adapter ν)) (interface : Adapter ν) :
    (addresses hostAddress (interfaces ++ [interface])).2 =
      (addresses hostAddress interfaces).2 ++ [entryBehind hostAddress interfaces interface] := by
  simp only [addresses, entryBehind, nodeNameAfter, List.foldl_append, List.foldl_cons,
    List.foldl_nil]
  rfl

theorem length_addresses (interfaces : List (Adapter ν)) :
    (addresses hostAddress interfaces).2.length = interfaces.length := by
  induction interfaces using List.reverseRecOn with
  | nil => rfl
  | append_singleton interfaces interface ih =>
      rw [addresses_concat, List.length_append, List.length_append, ih]
      rfl

theorem addresses_getElem? (before after : List (Adapter ν)) (interface : Adapter ν) :
    (addresses hostAddress (before ++ interface :: after)).2[before.length]? =
      some (entryBehind hostAddress before interface) := by
  induction after using List.reverseRecOn with
  | nil =>
      rw [addresses_concat, List.getElem?_append_right (length_addresses hostAddress before).le,
        length_addresses, Nat.sub_self]
      rfl
  | append_singleton after last ih =>
      have hsplit : before ++ interface :: (after ++ [last]) =
          (before ++ interface :: after) ++ [last] := by simp
      rw [hsplit, addresses_concat, List.getElem?_append_left, ih]
      rw [length_addresses, List.length_append, List.length_cons]
      omega

/-! ### Own addresses -/

structure IsOwnEntry (interface : Adapter ν) (entry : AddressesInfo) : Prop where
  name : entry.name = interface.name
  mac : entry.mac = interface.macAddress
  without : interface.ipv4Addresses = [] → entry.ip = []
  address : interface.ipv4Addresses ≠ [] → ∃ node ∈ interface.ipv4Addresses,
    entry.ip = hostAddress node

/-- Each interface gets an entry of its own, which stays the same if the others are permuted and
some of them removed. -/
structure OwnAddresses (interfaces : List (Adapter ν)) : Prop where
  length : (addresses hostAddress interfaces).2.length = interfaces.length
  own : ∀ before interface after, interfaces = before ++ interface :: after →
    ∃ entry, (addresses hostAddress interfaces).2[before.length]? = some entry ∧
      IsOwnEntry hostAddress interface entry
  independent : ∀ before interface after before' after',
    interfaces = before ++ interface :: after → (before' ++ after').Subperm (before ++ after) →
      (addresses hostAddress (before' ++ interface :: after')).2[before'.length]? =
        (addresses hostAddress interfaces).2[before.length]?

/-- With an address of its own, an interface does not depend on the others. -/
theorem entryBehind_of_address {interface : Adapter ν} (h : interface.ipv4Addresses ≠ [])
    (before : List (Adapter ν)) :
    entryBehind hostAddress before interface =
      ⟨interface.name, hostAddress (interface.ipv4Addresses.getLast h),
        interface.macAddress⟩ := by
  rw [entryBehind, nodeNameAfter_append, List.getLast?_eq_some_getLast h]
  rfl

theorem nodeNameAfter_of_without {interfaces : List (Adapter ν)}
    (h : ∀ interface ∈ interfaces, interface.ipv4Addresses = []) :
    nodeNameAfter hostAddress interfaces = [] := by
  induction interfaces using List.reverseRecOn with
  | nil => rfl
  | append_singleton interfaces interface ih =>
      rw [nodeNameAfter_append, h interface (by simp)]
      exact ih fun other hother => h other (List.mem_append_left _ hother)

/-- An interface without an address has an empty one as long as no interface before has one. -/
theorem entryBehind_of_without {before : List (Adapter ν)} {interface : Adapter ν}
    (h : interface.ipv4Addresses = [])
    (hbefore : ∀ other ∈ before, other.ipv4Addresses = []) :
    entryBehind hostAddress before interface =
      ⟨interface.name, [], interface.macAddress⟩ := by
  rw [entryBehind, nodeNameAfter_append, h, nodeNameAfter_of_without hostAddress hbefore]
  rfl

theorem isOwnEntry_of_address {interface : Adapter ν} (h : interface.ipv4Addresses ≠ [])
    (before : List (Adapter ν)) :
    IsOwnEntry hostAddress interface (entryBehind hostAddress before interface) := by
  rw [entryBehind_of_address hostAddress h]
  exact ⟨rfl, rfl, fun hnil => absurd hnil h, fun _ => ⟨_, List.getLast_mem h, rfl⟩⟩

theorem isOwnEntry_of_without {before : List (Adapter ν)} {interface : Adapter ν}
    (h : interface.ipv4Addresses = [])
    (hbefore : ∀ other ∈ before, other.ipv4Addresses = []) :
    IsOwnEntry hostAddress interface (entryBehind hostAddress before interface) := by
  rw [entryBehind_of_without hostAddress h hbefore]
  exact ⟨rfl, rfl, fun _ => rfl, fun hne => absurd h hne⟩

theorem ownAddresses_of_all {interfaces : List (Adapter ν)}
    (h : ∀ interface ∈ interfaces, interface.ipv4Addresses ≠ []) :
    OwnAddresses hostAddress interfaces where
  length := length_addresses hostAddress interfaces
  own := by
    intro before interface after hsplit
    subst hsplit
    exact ⟨_, addresses_getElem? hostAddress before after interface,
      isOwnEntry_of_address hostAddress (h interface (by simp)) before⟩
  independent := by
    intro before interface after before' after' hsplit _
    subst hsplit
    have hinterface := h interface (by simp)
    rw [addresses_getElem?, addresses_getElem?, entryBehind_of_address hostAddress hinterface,
      entryBehind_of_address hostAddress hinterface]

theorem ownAddresses_of_none {interfaces : List (Adapter ν)}
    (h : ∀ interface ∈ interfaces, interface.ipv4Addresses = []) :
    OwnAddresses hostAddress interfaces where
  length := length_addresses hostAddress interfaces
  own := by
    intro before interface after hsplit
    subst hsplit
    exact ⟨_, addresses_getElem? hostAddress before after interface,
      isOwnEntry_of_without hostAddress (h interface (by simp))
        fun other hother => h other (by simp [hother])⟩
  independent := by
    intro before interface after before' after' hsplit hothers
    subst hsplit
    have hinterface := h interface (by simp)
    have hbefore : ∀ other ∈ before, other.ipv4Addresses = [] := by
      intro other hother
      exact h other (by simp [hother])
    have hbefore' : ∀ other ∈ before', other.ipv4Addresses = [] := by
      intro other hother
      have hmem := hothers.subset (List.mem_append_left after' hother)
      apply h
      rcases List.mem_append.mp hmem with hmem | hmem <;> simp [hmem]
    rw [addresses_getElem?, addresses_getElem?,
      entryBehind_of_without hostAddress hinterface hbefore,
      entryBehind_of_without hostAddress hinterface hbefore']

/-- Behind an interface with an address, one without would get that address. -/
theorem not_ownAddresses (hhost : ∀ node, hostAddress node ≠ []) {interfaces : List (Adapter ν)}
    (without other : Adapter ν) (hwithout : without ∈ interfaces) (hother : other ∈ interfaces)
    (hnone : without.ipv4Addresses = []) (hsome : other.ipv4Addresses ≠ []) :
    ¬ OwnAddresses hostAddress interfaces := by
  intro h
  obtain ⟨before, after, hsplit⟩ := List.append_of_mem hwithout
  have hmem : other ∈ before ++ after := by
    have hcases : other ∈ before ∨ other = without ∨ other ∈ after := by
      simpa [hsplit] using hother
    rcases hcases with hbefore | rfl | hafter
    · exact List.mem_append_left after hbefore
    · exact absurd hnone hsome
    · exact List.mem_append_right before hafter
  have hothers : ([other] ++ []).Subperm (before ++ after) := by
    simpa using hmem
  have hentry := h.independent before without after [other] [] hsplit hothers
  obtain ⟨entry, hget, hown⟩ := h.own before without after hsplit
  rw [hget, addresses_getElem?] at hentry
  have hip := hown.without hnone
  rw [← Option.some.inj hentry, entryBehind, nodeNameAfter_append, hnone] at hip
  have hname := nodeNameAfter_append hostAddress [] other
  rw [List.getLast?_eq_some_getLast hsome] at hname
  exact hhost _ (hname.symm.trans hip)

theorem ownAddresses_iff (hhost : ∀ node, hostAddress node ≠ [])
    (interfaces : List (Adapter ν)) :
    OwnAddresses hostAddress interfaces ↔
      (∀ interface ∈ interfaces, interface.ipv4Addresses ≠ []) ∨
        ∀ interface ∈ interfaces, interface.ipv4Addresses = [] := by
  constructor
  · intro h
    by_cases hall : ∀ interface ∈ interfaces, interface.ipv4Addresses ≠ []
    · exact Or.inl hall
    · right
      push Not at hall
      obtain ⟨without, hwithout, hnone⟩ := hall
      intro other hother
      by_contra hsome
      exact not_ownAddresses hostAddress hhost without other hwithout hother hnone hsome h
  · intro h
    rcases h with hall | hnone
    · exact ownAddresses_of_all hostAddress hall
    · exact ownAddresses_of_none hostAddress hnone

/-! ### Dotted quads -/

/-- The text of an address with its four bytes. -/
def dottedQuad (address : ℕ × ℕ × ℕ × ℕ) : Text :=
  Storage.decimal address.1 ++ '.' :: Storage.decimal address.2.1 ++
    '.' :: Storage.decimal address.2.2.1 ++ '.' :: Storage.decimal address.2.2.2

theorem dottedQuad_ne_nil (address : ℕ × ℕ × ℕ × ℕ) : dottedQuad address ≠ [] := by
  simp [dottedQuad]

def loopback : Adapter (ℕ × ℕ × ℕ × ℕ) where
  name := ['l', 'o']
  macAddress := "00:00:00:00:00:00".toList
  ipv4Addresses := [(127, 0, 0, 1)]

def unplugged : Adapter (ℕ × ℕ × ℕ × ℕ) where
  name := ['e', 't', 'h', '0']
  macAddress := "00:11:22:33:44:55".toList
  ipv4Addresses := []

theorem ownAddresses_loopback : OwnAddresses dottedQuad [loopback] :=
  (ownAddresses_iff dottedQuad dottedQuad_ne_nil [loopback]).mpr (Or.inl (by simp [loopback]))

/-- The unplugged interface is reported with the loopback address. -/
theorem not_ownAddresses_unplugged :
    (addresses dottedQuad [loopback, unplugged]).2[1]? =
        some ⟨unplugged.name, dottedQuad (127, 0, 0, 1), unplugged.macAddress⟩ ∧
      ¬ OwnAddresses dottedQuad [loopback, unplugged] :=
  ⟨rfl, not_ownAddresses dottedQuad dottedQuad_ne_nil unplugged loopback
    (by simp) (by simp) rfl (by simp [loopback])⟩

end DeviceAndDisplay.DeviceInfo
