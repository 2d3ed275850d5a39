import StablecoinStudio.Core.Common

/-!
# Role identifiers and resolver keys

`constants/roles.sol`, and from `constants/resolverKeys.sol` the keys that
modelled functions use.
-/

namespace StablecoinStudio.Core.Constants

open StablecoinStudio.Core.Common

def adminRole : Bytes32 := 0x00

def cashinRole : Bytes32 := 0x53300d27a2268d3ff3ecb0ec8e628321ecfba1a08aed8b817e8acf589a52d25c

def burnRole : Bytes32 := 0xe97b137254058bd94f28d2f3eb79e2d34074ffb488d042e3bc958e0a57d2fa22

def wipeRole : Bytes32 := 0x515f99f4e5a381c770462a8d9879a01f0fd4a414a168a2404dab62a62e1af0c3

def rescueRole : Bytes32 := 0x43f433f336cda92fbbe5bfbdd344a9fd79b2ef138cd6e6fc49d55e2f54e1d99a

def pauseRole : Bytes32 := 0x139c2898040ef16910dc9f44dc697df79363da767d8bc92f2e310312b816e46d

def freezeRole : Bytes32 := 0x5789b43a60de35bcedee40618ae90979bab7d1315fd4b079234241bdab19936d

def deleteRole : Bytes32 := 0x2b73f0f98ad60ca619bbdee4bcd175da1127db86346339f8b718e3f8b4a006e2

/-- Stands in `getRoles` for a role the account does not hold. -/
def withoutRole : Bytes32 := 0xe11b25922c3ff9f0f0a34f0b8929ac96a1f215b99dcb08c2891c220cf3a7e8cc

def kycRole : Bytes32 := 0xdb11624602202c396fa347735a55e345a3aeb3e60f8885e1a71f1bf8d5886db7

def customFeesRole : Bytes32 := 0x6db8586688d24c6a6367d21f709d650b12a2a61dd75e834bd8cd90fd6afa794b

def holdCreatorRole : Bytes32 := 0xa0edc074322e33cf8b82b4182ff2827f0fef9412190f0e8417c2669a1e8747e4

def hederaTokenManagerResolverKey : Bytes32 :=
  0x508e5c5451eb5dafa5825e056f6379efd02f2ff4f29225609e6f04b31de4047a

def businessLogicResolverKey : Bytes32 :=
  0x224de04665a1aebe3bb8d5ba58c308e3f7f398f54c131768109c28b53bb9564c

end StablecoinStudio.Core.Constants
