import AbstractFramework.Objects.AccountIdJson

/-! # Platforms on chains

A platform is named with the chain that it stands on, as in `juno>wyndex`, or by its name
alone on its own chain.
-/

namespace AbstractFramework.Platforms

open AbstractFramework Fallible

/-- Un-nest the platform name: the chain, if there is one, and the rest. -/
def decomposePlatformName (platformName : String) : Option String × String :=
  match splitOnce '>' platformName.toList with
  | some (chainName, platformName) => (some (String.ofList chainName), String.ofList platformName)
  | none => (none, platformName)

/-- The chain id without what follows its last `-`. -/
def getChainName (chainId : String) : String :=
  match splitOnce '-' chainId.toList.reverse with
  | some (_, front) => String.ofList front.reverse
  | none => chainId

def isCurrentChain (chainId chainName : String) : Prop := getChainName chainId = chainName

instance (chainId chainName : String) : Decidable (isCurrentChain chainId chainName) :=
  inferInstanceAs (Decidable (getChainName chainId = chainName))

/-- What a platform tells about itself. -/
structure Identify where
  name : String
  availableChains : List String
deriving DecidableEq, Repr

def Identify.isAvailableOn (platform : Identify) (chainName : String) : Bool :=
  platform.availableChains.contains chainName

def isAvailableOn (platform : Identify) (chainId : String) (chainName : Option String) : Bool :=
  match chainName with
  | some chainName => platform.isAvailableOn chainName
  | none => platform.isAvailableOn (getChainName chainId)

/-! ## Names -/

section Names

variable {chain platform : String}

/-- The name of a platform on a chain. -/
def onChain (chain platform : String) : String := chain ++ ">" ++ platform

theorem toList_onChain : (onChain chain platform).toList = chain.toList ++ '>' :: platform.toList := by
  simp [onChain]

theorem decomposePlatformName_onChain (plain : '>' ∉ chain.toList) :
    decomposePlatformName (onChain chain platform) = (some chain, platform) := by
  simp [decomposePlatformName, toList_onChain, splitOnce_append _ plain]

theorem decomposePlatformName_plain (plain : '>' ∉ platform.toList) :
    decomposePlatformName platform = (none, platform) := by
  simp [decomposePlatformName, splitOnce_eq_none.mpr plain]

/-- A name that is taken apart gets shorter. -/
theorem decomposePlatformName_ne (nested : '>' ∈ platform.toList) :
    (decomposePlatformName platform).2 ≠ platform := by
  intro same
  unfold decomposePlatformName at same
  cases split : splitOnce '>' platform.toList with
  | none => exact splitOnce_eq_none.mp split nested
  | some parts =>
    obtain ⟨before, after⟩ := parts
    simp only [split] at same
    have shorter := congrArg List.length (splitOnce_eq_some split)
    rw [← same, String.toList_ofList, List.length_append, List.length_cons] at shorter
    omega

/-- A chain whose id is its name and a number. -/
theorem getChainName_append_number : getChainName (chain ++ "-1") = chain := by
  have reversed : (chain ++ "-1").toList.reverse = ['1'] ++ '-' :: chain.toList.reverse := by simp
  have plain : '-' ∉ ['1'] := by decide
  rw [getChainName, reversed, splitOnce_append _ plain]
  simp

theorem notMem_chainName {chain : TruncatedChainId} (valid : chain.verify = .ok ()) :
    '>' ∉ chain.name.toList := by
  intro listed
  have isChar := chain.verify_chars valid _ listed
  cases isChar

end Names

end AbstractFramework.Platforms
