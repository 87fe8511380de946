import Psv.Rails.Config

/-!
# The registered rails

The table `KNOWN_RAILS`, one record for each entry; `mock-anvil` stands beside
the configuration records.  Every constructor check is a closed computation, so
a rail that the constructors would refuse cannot be written down here.
-/

namespace Psv

open Python

namespace Rails

def circleUsdc : String := "https://developers.circle.com/stablecoins/usdc-contract-addresses"

def circleEurc : String := "https://developers.circle.com/stablecoins/eurc-contract-addresses"

def jpycNotice : String := "https://corporate.jpyc.co.jp/news/posts/Notice"

def baseRpc : String := "https://mainnet.base.org"

def polygonRpc : String := "https://polygon.drpc.org"

def x402DefaultAssets : String :=
  "https://github.com/x402-foundation/x402/blob/main/DEFAULT_ASSETS.md"

def celoRpc : String := "https://forno.celo.org"

def celoSepoliaRpc : String := "https://forno.celo-sepolia.celo-testnet.org"

def baseSepoliaRpc : String := "https://sepolia.base.org"

def x402DefaultAssetsBaseSepolia : String :=
  "https://github.com/x402-foundation/x402/blob/cb0ec5bc/" ++
  "python/x402/mechanisms/evm/default_assets.py"

def flareRpc : String := "https://flare-api.flare.network/ext/C/rpc"

def circleProxySlot : Str :=
  "0x7050c9e0f4ca769c69bd3a8ef740bc37934f8e2c036e5a723fd8ee048ed3f8c3".toList

def erc1967ProxySlot : Str :=
  "0x360894a13ba1a3210667c828492db98dca3e2076cc3735a920a3ca505d382bbc".toList

/-- The depth of every registered rail. -/
theorem one_confirmation : (1 : ℤ) ≤ 1 := le_refl 1

def attestationVersion : String := "2026-07-18.2"

def attestationVersion20260813 : String := "2026-08-13.1"

def attestationVersion20261007 : String := "2026-10-07.1"

def usdcBaseAttestation : RailAttestation where
  version := attestationVersion
  authoritativeSources := [circleUsdc, eip3009, baseRpc]
  networkClass := .mainnet
  proxyKind := .fiatTokenProxy
  expectedDecimals := 6
  domainName := some "USD Coin"
  domainVersion := some "2"
  reviewedBlockNumber := some 48783151
  reviewedBlockHash :=
    some "0x958d7bd04181a2d5b4ae239e5ecdf8944fe46fe25cedac2bb961a081aa822edb".toList
  expectedCodeSha256 :=
    some "98d785fcb1bf847f287adc2310759fd94cc13e754b974bc72131382e8266f607".toList
  implementationAddress := some "0x2ce6311ddae708829bc0784c967b7d77d19fd779".toList
  proxyImplementationSlot :=
    some "0x7050c9e0f4ca769c69bd3a8ef740bc37934f8e2c036e5a723fd8ee048ed3f8c3".toList
  implementationCodeSha256 :=
    some "dcb3b7ca28662970d0a7cdad420e529fb837d7bf8a246b1a680c20e153db79e8".toList
  calibrated := true
  accepted := by decide +kernel

/-- The registered rail `usdc-base`. -/
def usdcBase : RailConfig where
  key := "usdc-base"
  label := "USDC on Base"
  chainId := 8453
  tokenAddress := "0x833589fCD6eDb6E08f4c7C32D4f71b54bdA02913".toList
  decimals := 6
  tokenName := some "USD Coin"
  tokenVersion := some "2"
  finality := ⟨.finalized, 1, one_confirmation⟩
  attestation := usdcBaseAttestation
  accepted := by decide +kernel

def usdcPolygonAttestation : RailAttestation where
  version := attestationVersion20260813
  authoritativeSources := [circleUsdc, eip3009, polygonRpc]
  networkClass := .mainnet
  proxyKind := .fiatTokenProxy
  expectedDecimals := 6
  domainName := some "USD Coin"
  domainVersion := some "2"
  reviewedBlockNumber := some 91954134
  reviewedBlockHash :=
    some "0x643d0996cf9b2c8a345330946878e5f701a4bfbb825dab4b5b4337432012ce2c".toList
  expectedCodeSha256 :=
    some "dc2898fcd8071dd801212e8f34ce32f23aba05aadbad71ff84ef7faa2909a29c".toList
  implementationAddress := some "0x235ae97b28466db30469b89a9fe4cff0659f82cb".toList
  proxyImplementationSlot :=
    some "0x7050c9e0f4ca769c69bd3a8ef740bc37934f8e2c036e5a723fd8ee048ed3f8c3".toList
  implementationCodeSha256 :=
    some "ccc73d219a0d3f7ea8a2bafce3351a9ae1d394dd9ab4c35497865541505fedd9".toList
  calibrated := true
  accepted := by decide +kernel

/-- The registered rail `usdc-polygon`. -/
def usdcPolygon : RailConfig where
  key := "usdc-polygon"
  label := "USDC on Polygon"
  chainId := 137
  tokenAddress := "0x3c499c542cEF5E3811e1192ce70d8cC03d5c3359".toList
  decimals := 6
  tokenName := some "USD Coin"
  tokenVersion := some "2"
  finality := ⟨.finalized, 1, one_confirmation⟩
  attestation := usdcPolygonAttestation
  accepted := by decide +kernel

def jpycPolygonAttestation : RailAttestation where
  version := attestationVersion
  authoritativeSources := [jpycNotice, eip3009]
  networkClass := .mainnet
  proxyKind := .vendorProxy
  expectedDecimals := 18
  domainName := some "JPY Coin"
  domainVersion := some "1"
  calibrated := false
  accepted := by decide +kernel

/-- The registered rail `jpyc-polygon`. -/
def jpycPolygon : RailConfig where
  key := "jpyc-polygon"
  label := "JPYC on Polygon"
  chainId := 137
  tokenAddress := "0xe7c3d8c9a439fede00d2600032d5db0be71c3c29".toList
  decimals := 18
  tokenName := some "JPY Coin"
  tokenVersion := some "1"
  finality := ⟨.finalized, 1, one_confirmation⟩
  attestation := jpycPolygonAttestation
  accepted := by decide +kernel

def eurcBaseAttestation : RailAttestation where
  version := attestationVersion
  authoritativeSources := [circleEurc, eip3009, baseRpc]
  networkClass := .mainnet
  proxyKind := .fiatTokenProxy
  expectedDecimals := 6
  domainName := .none
  domainVersion := .none
  reviewedBlockNumber := some 48783151
  reviewedBlockHash :=
    some "0x958d7bd04181a2d5b4ae239e5ecdf8944fe46fe25cedac2bb961a081aa822edb".toList
  expectedCodeSha256 :=
    some "c9cf7c3f11c4d3d818801b5a965cea3bae6ff3b9b923242b91a9b4e5888e7835".toList
  implementationAddress := some "0x2ce6311ddae708829bc0784c967b7d77d19fd779".toList
  proxyImplementationSlot :=
    some "0x7050c9e0f4ca769c69bd3a8ef740bc37934f8e2c036e5a723fd8ee048ed3f8c3".toList
  implementationCodeSha256 :=
    some "dcb3b7ca28662970d0a7cdad420e529fb837d7bf8a246b1a680c20e153db79e8".toList
  calibrated := true
  accepted := by decide +kernel

/-- The registered rail `eurc-base`. -/
def eurcBase : RailConfig where
  key := "eurc-base"
  label := "EURC on Base"
  chainId := 8453
  tokenAddress := "0x60a3e35cc302bfa44cb288bc5a4f316fdb1adb42".toList
  decimals := 6
  tokenName := .none
  tokenVersion := .none
  finality := ⟨.finalized, 1, one_confirmation⟩
  attestation := eurcBaseAttestation
  accepted := by decide +kernel

def usdcCeloAttestation : RailAttestation where
  version := attestationVersion20260813
  authoritativeSources := [circleUsdc, eip3009, x402DefaultAssets, celoRpc]
  networkClass := .mainnet
  proxyKind := .fiatTokenProxy
  expectedDecimals := 6
  domainName := some "USDC"
  domainVersion := some "2"
  reviewedBlockNumber := some 74742375
  reviewedBlockHash :=
    some "0x0e5b9dcd8f843fc8ddaa41bc578b82a0eb9149e1570eaeda534c6c7809b8b939".toList
  expectedCodeSha256 :=
    some "c8dd45e79870cb5e3d81e19f704c0fb54809c98f5be4243c552dc34a3ca7b6e4".toList
  implementationAddress := some "0xda06d4e3f59fe2c8ff3077a9d50d5be5e231becd".toList
  proxyImplementationSlot := some circleProxySlot
  implementationCodeSha256 :=
    some "d13bec344a0650de736a9bfce03cd0930d5c117764f61ea3ed2357f70e817a14".toList
  calibrated := true
  accepted := by decide +kernel

/-- The registered rail `usdc-celo`. -/
def usdcCelo : RailConfig where
  key := "usdc-celo"
  label := "USDC on Celo"
  chainId := 42220
  tokenAddress := "0xcebA9300f2b948710d2653dD7B07f33A8B32118C".toList
  decimals := 6
  tokenName := some "USDC"
  tokenVersion := some "2"
  finality := ⟨.finalized, 1, one_confirmation⟩
  attestation := usdcCeloAttestation
  accepted := by decide +kernel

def usdcCeloSepoliaAttestation : RailAttestation where
  version := attestationVersion20260813
  authoritativeSources := [circleUsdc, eip3009, x402DefaultAssets, celoSepoliaRpc]
  networkClass := .testnet
  proxyKind := .fiatTokenProxy
  expectedDecimals := 6
  domainName := some "USDC"
  domainVersion := some "2"
  reviewedBlockNumber := some 33358890
  reviewedBlockHash :=
    some "0x5982a282bf48188354af6583ea268bcafd0297c9b7ea30fa95e49fd57a7ccc9d".toList
  expectedCodeSha256 :=
    some "c9cf7c3f11c4d3d818801b5a965cea3bae6ff3b9b923242b91a9b4e5888e7835".toList
  implementationAddress := some "0x18b2bf98579267d4b108c5d82f816710a17efbb6".toList
  proxyImplementationSlot := some circleProxySlot
  implementationCodeSha256 :=
    some "a0c17ab2e0a8e1e606fed223171bdf66dd58e8fa571b15e6af1bea4e640515d8".toList
  calibrated := true
  accepted := by decide +kernel

/-- The registered rail `usdc-celo-sepolia`. -/
def usdcCeloSepolia : RailConfig where
  key := "usdc-celo-sepolia"
  label := "USDC on Celo Sepolia"
  chainId := 11142220
  tokenAddress := "0x01C5C0122039549AD1493B8220cABEdD739BC44E".toList
  decimals := 6
  tokenName := some "USDC"
  tokenVersion := some "2"
  finality := ⟨.finalized, 1, one_confirmation⟩
  attestation := usdcCeloSepoliaAttestation
  accepted := by decide +kernel

def usdcBaseSepoliaAttestation : RailAttestation where
  version := attestationVersion20261007
  authoritativeSources := [circleUsdc, eip3009, x402DefaultAssetsBaseSepolia, baseSepoliaRpc]
  networkClass := .testnet
  proxyKind := .fiatTokenProxy
  expectedDecimals := 6
  domainName := some "USDC"
  domainVersion := some "2"
  reviewedBlockNumber := some 47801036
  reviewedBlockHash :=
    some "0x70b0837b92f7f71dc81194899b23c18ee6332c74464b8da42c359a9a4ba70266".toList
  expectedCodeSha256 :=
    some "e878b99fc0c17354c86c7edeb999c70c18cfd925abb0958496f027cbad996d28".toList
  implementationAddress := some "0xd74cc5d436923b8ba2c179b4bca2841d8a52c5b5".toList
  proxyImplementationSlot := some circleProxySlot
  implementationCodeSha256 :=
    some "9e410c49b2c8f98e4924d5cab8f07e734625c650c940a7ed600b376f010eba77".toList
  calibrated := true
  accepted := by decide +kernel

/-- The registered rail `usdc-base-sepolia`. -/
def usdcBaseSepolia : RailConfig where
  key := "usdc-base-sepolia"
  label := "USDC on Base Sepolia"
  chainId := 84532
  tokenAddress := "0x036CbD53842c5426634e7929541eC2318f3dCF7e".toList
  decimals := 6
  tokenName := some "USDC"
  tokenVersion := some "2"
  finality := ⟨.finalized, 1, one_confirmation⟩
  attestation := usdcBaseSepoliaAttestation
  accepted := by decide +kernel

def usdt0FlareAttestation : RailAttestation where
  version := attestationVersion20260813
  authoritativeSources := [eip3009, x402DefaultAssets, flareRpc]
  networkClass := .mainnet
  proxyKind := .erc1967Proxy
  expectedDecimals := 6
  domainName := some "USD\u20ae0"
  domainVersion := some "1"
  reviewedBlockNumber := some 67327446
  reviewedBlockHash :=
    some "0xeed7aaaa1f2998e09cd4e5a3da1c4226217a1ef84aa5fe877a29bd54aa6257cd".toList
  expectedCodeSha256 :=
    some "e518057ee9772b6d5ad104f0c0cbae96d42e5543dcaaff3b39257089ab5fe699".toList
  implementationAddress := some "0x779ded0c9e1022225f8e0630b35a9b54be713736".toList
  proxyImplementationSlot := some erc1967ProxySlot
  implementationCodeSha256 :=
    some "6ed7b35f916bd991124be4fbfccfaa693f61f7a74800eea445fa8727463d6f44".toList
  calibrated := true
  accepted := by decide +kernel

/-- The registered rail `usdt0-flare`. -/
def usdt0Flare : RailConfig where
  key := "usdt0-flare"
  label := "USD\u20ae0 on Flare"
  chainId := 14
  tokenAddress := "0xe7cd86e13AC4309349F30B3435a9d337750fC82D".toList
  decimals := 6
  tokenName := some "USD\u20ae0"
  tokenVersion := some "1"
  finality := ⟨.finalized, 1, one_confirmation⟩
  attestation := usdt0FlareAttestation
  accepted := by decide +kernel

/-- `KNOWN_RAILS`, in its order. -/
def knownRails : List RailConfig :=
  [mockAnvil, usdcBase, usdcPolygon, jpycPolygon, eurcBase, usdcCelo, usdcCeloSepolia,
    usdcBaseSepolia, usdt0Flare]

/-- Every registered rail has a name to print. -/
theorem named_knownRails : ∀ rail ∈ knownRails, rail.key ≠ "" ∧ rail.label ≠ "" := by
  decide +kernel

end Rails

end Psv
