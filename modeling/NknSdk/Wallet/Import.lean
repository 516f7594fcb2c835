import NknSdk.Wallet.Keystore

/-!
# Importing any text as a wallet

`Wallet::from_json` takes its text from a file or from a user.  What it returns is
the account whose address the text has (`fromJson_ok`).  But it unwraps what it
reads: every field that is no hexadecimal text, every parameter that scrypt does not
take and every length that AES does not take is a panic, and so is a seed of another
length.  `from_json_iff` says which texts are imported or refused without one.

The ciphers are decrypted one with the key that the other one holds, so that the
lengths of the fields decide, whatever the password is.
-/

namespace NknSdk.Keystore

open Exec

/-! ## What is decrypted -/

/-- What AES-CBC without padding takes is a matter of lengths, and it decrypts an input
to as many bytes. -/
structure Crates.AesByLength (c : Crates) : Prop where
  takes : ∀ {input key iv input' key' iv' : Bytes}, input.length = input'.length →
    key.length = key'.length → iv.length = iv'.length →
      ((c.aesDecrypt input key iv).isSome ↔ (c.aesDecrypt input' key' iv').isSome)
  length_eq : ∀ {input key iv output : Bytes}, c.aesDecrypt input key iv = some output →
    output.length = input.length

/-- AES takes an input, a key and an initialization vector of these lengths. -/
def Crates.AesTakes (c : Crates) (input key iv : Nat) : Prop :=
  (c.aesDecrypt (List.replicate input 0) (List.replicate key 0) (List.replicate iv 0)).isSome

/-- The fields are hexadecimal, scrypt takes its parameters and AES the lengths of the
two ciphers, the second one under the first, and the seed has its length. -/
def WalletData.Decrypts (c : Crates) (password : String) (data : WalletData) : Prop :=
  ∃ salt iv masterKeyCipher seedCipher : Bytes,
    Hex.decode data.scrypt.salt = some salt ∧
    (c.scrypt password.toUTF8.toList salt data.scrypt.logN data.scrypt.r data.scrypt.p).isSome ∧
    Hex.decode data.iv = some iv ∧
    Hex.decode data.masterKey = some masterKeyCipher ∧
    c.AesTakes masterKeyCipher.length aesHashLen iv.length ∧
    Hex.decode data.seedEncrypted = some seedCipher ∧
    c.AesTakes seedCipher.length masterKeyCipher.length iv.length ∧
    seedCipher.length = seedLen

/-- The text is refused, or it is imported as the account that it names. -/
def Imports (c : Crates) (json : String) (config : WalletConfig) : Prop :=
  (∃ e, Wallet.fromJson c json config () = (.err e, ())) ∨
    ∃ wallet data, Wallet.fromJson c json config () = (.ok wallet, ()) ∧
      Wallet.readData c json = .ok data ∧
      wallet.account.address c.toHashes = data.address

section Import

variable {c : Crates} {json : String} {config : WalletConfig} {data : WalletData}

theorem Crates.AesByLength.isSome_iff (haes : c.AesByLength) {input key iv : Bytes} :
    (c.aesDecrypt input key iv).isSome ↔ c.AesTakes input.length key.length iv.length :=
  haes.takes List.length_replicate.symm List.length_replicate.symm List.length_replicate.symm

theorem seedOf_isSome_iff {bytes : Bytes} :
    (∃ seed, WalletData.seedOf bytes = some seed) ↔ bytes.length = seedLen := by
  by_cases hlen : bytes.length = seedLen
  · rw [WalletData.seedOf, dif_pos hlen]
    exact ⟨fun _ => hlen, fun _ => ⟨_, rfl⟩⟩
  · rw [WalletData.seedOf, dif_neg hlen]
    constructor
    · rintro ⟨seed, hseed⟩
      cases hseed
    · exact fun h => absurd h hlen

/-- What is imported has the address that the text names. -/
theorem fromJson_ok {wallet : Wallet} (hread : Wallet.readData c json = .ok data)
    (h : Wallet.fromJson c json config () = (.ok wallet, ())) :
    wallet.account.address c.toHashes = data.address := by
  rw [Wallet.fromJson, hread, ofExcept_ok, Exec.pure_bind] at h
  obtain ⟨masterKey, s₁, -, h₁⟩ := bind_eq_ok h
  obtain ⟨account, s₂, -, h₂⟩ := bind_eq_ok h₁
  split at h₂
  next => cases h₂
  next haddress =>
    cases h₂
    exact not_not.mp haddress

/-- Importing returns where everything it unwraps is there. -/
theorem fromJson_returns_iff (hread : Wallet.readData c json = .ok data) :
    (Wallet.fromJson c json config ()).1.Returns ↔
      ∃ salt key iv masterKeyCipher masterKey seedCipher bytes seed,
        Hex.decode data.scrypt.salt = some salt ∧
        c.scrypt config.password.toUTF8.toList salt data.scrypt.logN data.scrypt.r
          data.scrypt.p = some key ∧
        Hex.decode data.iv = some iv ∧
        Hex.decode data.masterKey = some masterKeyCipher ∧
        c.aesDecrypt masterKeyCipher key.toList iv = some masterKey ∧
        Hex.decode data.seedEncrypted = some seedCipher ∧
        c.aesDecrypt seedCipher masterKey iv = some bytes ∧
        WalletData.seedOf bytes = some seed := by
  rw [Wallet.fromJson, hread, ofExcept_ok, Exec.pure_bind]
  simp only [WalletData.decryptAccount, WalletData.decryptMasterKey, scryptKdf, Exec.bind_assoc,
    returns_unwrap_bind]
  constructor
  · -- The master key is decrypted twice over, and the second time like the first.
    rintro ⟨salt, hsalt, key, hkey, iv, hiv, masterKeyCipher, hcipher, masterKey, hmasterKey,
      salt', hsalt', key', hkey', iv', hiv', masterKeyCipher', hcipher', masterKey', hmasterKey',
      iv'', hiv'', seedCipher, hseedCipher, bytes, hbytes, seed, hseed, -⟩
    cases hsalt.symm.trans hsalt'
    cases hkey.symm.trans hkey'
    cases hiv.symm.trans hiv'
    cases hiv.symm.trans hiv''
    cases hcipher.symm.trans hcipher'
    cases hmasterKey.symm.trans hmasterKey'
    exact ⟨salt, key, iv, masterKeyCipher, masterKey, seedCipher, bytes, seed, hsalt, hkey, hiv,
      hcipher, hmasterKey, hseedCipher, hbytes, hseed⟩
  · rintro ⟨salt, key, iv, masterKeyCipher, masterKey, seedCipher, bytes, seed, hsalt, hkey, hiv,
      hcipher, hmasterKey, hseedCipher, hbytes, hseed⟩
    refine ⟨salt, hsalt, key, hkey, iv, hiv, masterKeyCipher, hcipher, masterKey, hmasterKey,
      salt, hsalt, key, hkey, iv, hiv, masterKeyCipher, hcipher, masterKey, hmasterKey,
      iv, hiv, seedCipher, hseedCipher, bytes, hbytes, seed, hseed, ?_⟩
    rw [Exec.pure_bind]
    split
    · exact trivial
    · exact trivial

/-- The lengths decide which decryptions go through. -/
theorem fromJson_returns_iff_decrypts (haes : c.AesByLength)
    (hread : Wallet.readData c json = .ok data) :
    (Wallet.fromJson c json config ()).1.Returns ↔ data.Decrypts c config.password := by
  rw [fromJson_returns_iff hread]
  constructor
  · rintro ⟨salt, key, iv, masterKeyCipher, masterKey, seedCipher, bytes, seed, hsalt, hkey, hiv,
      hcipher, hmasterKey, hseedCipher, hbytes, hseed⟩
    have hmaster := haes.isSome_iff.mp (Option.isSome_of_eq_some hmasterKey)
    have hseeds := haes.isSome_iff.mp (Option.isSome_of_eq_some hbytes)
    have hlen := seedOf_isSome_iff.mp ⟨seed, hseed⟩
    rw [haes.length_eq hmasterKey] at hseeds
    rw [haes.length_eq hbytes] at hlen
    rw [key.length_toList] at hmaster
    exact ⟨salt, iv, masterKeyCipher, seedCipher, hsalt, Option.isSome_of_eq_some hkey, hiv, hcipher,
      hmaster, hseedCipher, hseeds, hlen⟩
  · rintro ⟨salt, iv, masterKeyCipher, seedCipher, hsalt, hscrypt, hiv, hcipher, hmaster,
      hseedCipher, hseeds, hlen⟩
    obtain ⟨key, hkey⟩ := Option.isSome_iff_exists.mp hscrypt
    have hfirst : (c.aesDecrypt masterKeyCipher key.toList iv).isSome := by
      rw [haes.isSome_iff, key.length_toList]
      exact hmaster
    obtain ⟨masterKey, hmasterKey⟩ := Option.isSome_iff_exists.mp hfirst
    have hsecond : (c.aesDecrypt seedCipher masterKey iv).isSome := by
      rw [haes.isSome_iff, haes.length_eq hmasterKey]
      exact hseeds
    obtain ⟨bytes, hbytes⟩ := Option.isSome_iff_exists.mp hsecond
    obtain ⟨seed, hseed⟩ := seedOf_isSome_iff.mpr ((haes.length_eq hbytes).trans hlen)
    exact ⟨salt, key, iv, masterKeyCipher, masterKey, seedCipher, bytes, seed, hsalt, hkey, hiv,
      hcipher, hmasterKey, hseedCipher, hbytes, hseed⟩

theorem imports_iff_returns :
    Imports c json config ↔ (Wallet.fromJson c json config ()).1.Returns := by
  constructor
  · rintro (⟨e, herr⟩ | ⟨wallet, data, hok, -⟩)
    · rw [herr]
      exact trivial
    · rw [hok]
      exact trivial
  · intro hreturns
    rcases hcall : Wallet.fromJson c json config () with ⟨outcome, s⟩
    rw [hcall] at hreturns
    cases outcome with
    | ok wallet =>
        cases hread : Wallet.readData c json with
        | error e =>
            rw [Wallet.fromJson, hread] at hcall
            cases hcall
        | ok data => exact Or.inr ⟨wallet, data, hcall, hread, fromJson_ok hread hcall⟩
    | err e => exact Or.inl ⟨e, hcall⟩
    | panic => exact absurd hreturns id
    | block => exact absurd hreturns id

end Import

/-- A text is imported as the account that it names, or refused, exactly if it is no
wallet or what it holds can be decrypted. -/
theorem from_json_iff (c : Crates) (haes : c.AesByLength) (json : String) (config : WalletConfig) :
    Imports c json config ↔
      ∀ data, Wallet.readData c json = .ok data → data.Decrypts c config.password := by
  rw [imports_iff_returns]
  cases hread : Wallet.readData c json with
  | error e =>
      rw [Wallet.fromJson, hread]
      constructor
      · intro _ data hdata
        cases hdata
      · exact fun _ => trivial
  | ok data =>
      rw [fromJson_returns_iff_decrypts haes hread]
      constructor
      · rintro hdecrypts data' hdata'
        cases hdata'
        exact hdecrypts
      · exact fun h => h data rfl

/-! ## Samples -/

theorem length_swap {a b : Bytes} (h : a.length = b.length) (input : Bytes) :
    (Equiv.swap a b input).length = input.length := by
  by_cases ha : input = a
  · rw [ha, Equiv.swap_apply_left, h]
  · by_cases hb : input = b
    · rw [hb, Equiv.swap_apply_right, h]
    · rw [Equiv.swap_apply_of_ne_of_ne ha hb]

theorem length_sampleAes (input key : Bytes) : (sampleAes input key).length = input.length := by
  rw [sampleAes]
  split
  · exact length_swap (by decide) input
  · exact length_swap (by decide) input

theorem sample_aesByLength : sampleCrates.AesByLength where
  takes _ _ _ := Iff.of_eq rfl
  length_eq h := by
    cases h
    exact length_sampleAes _ _

theorem sample_from_json : Imports sampleCrates sampleJson sampleConfig := by
  refine (from_json_iff sampleCrates sample_aesByLength sampleJson sampleConfig).mpr ?_
  intro data hread
  have hdata : Wallet.readData sampleCrates sampleJson = .ok sampleData := by decide +kernel
  cases hdata.symm.trans hread
  exact ⟨[0, 1, 2, 3, 4, 5, 6, 7], List.replicate 16 3, sampleMasterKeyCipher, sampleSeedCipher,
    by decide +kernel, rfl, by decide +kernel, by decide +kernel, rfl, by decide +kernel, rfl, rfl⟩

/-- The sample wallet with a master key that is not hexadecimal. -/
def brokenData : WalletData := { sampleData with masterKey := "zz" }

def brokenJson : String :=
  "\x7b\"Version\":2,\"IV\":\"03030303030303030303030303030303\",\"MasterKey\":\"zz\"," ++
  "\"SeedEncrypted\":\"9c3ae9d3321030176caa39562b008484ca180de5e9a4126ee851982538dcfd49\"," ++
  "\"Address\":\"NKNYmsC2xFvjvdxBqgvgRqx88C3vhtecfqah\"," ++
  "\"Scrypt\":\x7b\"N\":2,\"R\":8,\"P\":1,\"Salt\":\"0001020304050607\"\x7d\x7d"

def brokenCrates : Crates :=
  { sampleCrates with
    parseJson := fun text =>
      if text = brokenJson then some (brokenData.object (sampleConfig.scrypt.object 2)) else none }

/-- Importing it panics. -/
theorem broken_master_key_panics :
    (Wallet.fromJson brokenCrates brokenJson sampleConfig ()).1 = .panic ∧
      ¬ Imports brokenCrates brokenJson sampleConfig := by
  have hpanics : (Wallet.fromJson brokenCrates brokenJson sampleConfig ()).1 = .panic := by
    have hread : Wallet.readData brokenCrates brokenJson = .ok brokenData := by decide +kernel
    have hsalt : Hex.decode brokenData.scrypt.salt = some [0, 1, 2, 3, 4, 5, 6, 7] := by
      decide +kernel
    have hmaster : Hex.decode brokenData.masterKey = none := by decide +kernel
    have hiv : Hex.decode brokenData.iv = some (List.replicate 16 3) := by decide +kernel
    rw [Wallet.fromJson, hread, ofExcept_ok, Exec.pure_bind]
    simp only [WalletData.decryptMasterKey, scryptKdf, Exec.bind_assoc]
    rw [hsalt, unwrap_some, Exec.pure_bind, hiv, hmaster]
    rfl
  refine ⟨hpanics, ?_⟩
  rw [imports_iff_returns, hpanics]
  exact id

end NknSdk.Keystore
