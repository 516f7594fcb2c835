import NknSdk.Lib.Hex
import NknSdk.Utils.Json
import NknSdk.Wallet.Account

/-!
# Wallets and their JSON

`src/wallet.rs`.  A wallet keeps the seed of its account encrypted twice over: the
seed with the master key, and the master key with a key that scrypt derives from the
password.  The JSON of a wallet holds both ciphers, the initialization vector and the
scrypt parameters; the cost is written as the number itself and kept as its binary
logarithm.

A wallet comes back from its JSON with the same password and any other settings
(`import_export`).
-/

namespace NknSdk.Keystore

open Exec

abbrev ivLen : Nat := 16

def masterKeyLen : Nat := 32

abbrev aesHashLen : Nat := 32

def walletVersion : UInt32 := 2

/-! ## The data -/

/-- `wallet::ScryptConfig`. -/
structure ScryptConfig where
  logN : UInt8
  r : UInt32
  p : UInt32
  salt : String
deriving DecidableEq

/-- `wallet::WalletConfig`. -/
structure WalletConfig where
  seedRpcServer : List String
  rpcTimeout : UInt64
  rcpConcurrency : UInt32
  password : String
  iv : Vector UInt8 ivLen
  masterKey : Bytes
  scrypt : ScryptConfig

/-- `wallet::WalletData`. -/
structure WalletData where
  version : UInt32
  iv : String
  masterKey : String
  seedEncrypted : String
  address : String
  scrypt : ScryptConfig
deriving DecidableEq

/-- `wallet::Wallet`. -/
structure Wallet where
  config : WalletConfig
  account : Account
  walletData : WalletData

/-- The build and what the wallet takes from other crates.  Where these panic there is
no result. -/
structure Crates extends Hashes where
  overflow : Overflow
  /-- The public key that goes with a secret key. -/
  publicKeyOf : PrivateKey → PublicKey
  /-- `scrypt::scrypt` of a password and a salt, with the checks of `ScryptParams::new`. -/
  scrypt : Bytes → Bytes → UInt8 → UInt32 → UInt32 → Option (Vector UInt8 aesHashLen)
  /-- `crypto::aes_encrypt` of an input with a key and an initialization vector. -/
  aesEncrypt : Bytes → Bytes → Bytes → Option Bytes
  /-- `crypto::aes_decrypt`. -/
  aesDecrypt : Bytes → Bytes → Bytes → Option Bytes
  /-- The text of a JSON value. -/
  printJson : Json → String
  parseJson : String → Option Json

abbrev KeystoreCall (α : Type) : Type := Exec String Unit α

/-! ## Reading and writing JSON -/

/-- `wallet::log2_serialize`.  The number that is shifted is an `i32`. -/
def log2Serialize (o : Overflow) (x : UInt8) : KeystoreCall Int32 :=
  arith o (x.toNat < 32) ((1 : Int32) <<< Int32.ofNat (x.toNat % 32))

/-- `u32::trailing_zeros`. -/
def trailingZeros (n : UInt32) : Nat :=
  ((List.range 32).find? fun i => n.toNat.testBit i).getD 32

/-- `wallet::log2_deserialize`. -/
def log2Deserialize (json : Json) : Option UInt8 :=
  json.asU32.map fun x => UInt8.ofNat (trailingZeros x)

namespace ScryptConfig

/-- The object of the parameters, with the cost `n`. -/
def object (n : Int32) (s : ScryptConfig) : Json :=
  .obj [("N", .int n.toInt), ("R", .int s.r.toNat), ("P", .int s.p.toNat), ("Salt", .str s.salt)]

def toJson (o : Overflow) (s : ScryptConfig) : KeystoreCall Json := do
  let n ← log2Serialize o s.logN
  return s.object n

def ofJson (json : Json) : Option ScryptConfig :=
  match json.fields ["N", "R", "P", "Salt"] with
  | some [n, r, p, salt] => do
      let logN ← log2Deserialize n
      let r ← r.asU32
      let p ← p.asU32
      let salt ← salt.asStr
      return { logN, r, p, salt }
  | _ => none

end ScryptConfig

namespace WalletData

/-- The object of the data, with the one of its scrypt parameters. -/
def object (scrypt : Json) (data : WalletData) : Json :=
  .obj [("Version", .int data.version.toNat), ("IV", .str data.iv),
    ("MasterKey", .str data.masterKey), ("SeedEncrypted", .str data.seedEncrypted),
    ("Address", .str data.address), ("Scrypt", scrypt)]

def toJson (o : Overflow) (data : WalletData) : KeystoreCall Json := do
  let scrypt ← data.scrypt.toJson o
  return data.object scrypt

def ofJson (json : Json) : Option WalletData :=
  match json.fields ["Version", "IV", "MasterKey", "SeedEncrypted", "Address", "Scrypt"] with
  | some [version, iv, masterKey, seedEncrypted, address, scrypt] => do
      let version ← version.asU32
      let iv ← iv.asStr
      let masterKey ← masterKey.asStr
      let seedEncrypted ← seedEncrypted.asStr
      let address ← address.asStr
      let scrypt ← ScryptConfig.ofJson scrypt
      return { version, iv, masterKey, seedEncrypted, address, scrypt }
  | _ => none

end WalletData

/-! ## Encrypting and decrypting -/

/-- `crypto::scrypt_kdf`. -/
def scryptKdf (c : Crates) (password : String) (config : ScryptConfig) :
    KeystoreCall (Vector UInt8 aesHashLen) := do
  let salt ← unwrap (Hex.decode config.salt)
  unwrap (c.scrypt password.toUTF8.toList salt config.logN config.r config.p)

/-- `crypto::password_to_aes_key_scrypt`. -/
def passwordToAesKeyScrypt (c : Crates) (password : String) (config : ScryptConfig) :
    KeystoreCall (Vector UInt8 aesHashLen) :=
  scryptKdf c password config

namespace WalletData

/-- `WalletData::new`. -/
def new (c : Crates) (account : Account) (config : WalletConfig) : KeystoreCall WalletData := do
  let passwordKey ← passwordToAesKeyScrypt c config.password config.scrypt
  let seed := account.privateKey.toList
  let masterKeyCipher ← unwrap (c.aesEncrypt config.masterKey passwordKey.toList config.iv.toList)
  let seedCipher ← unwrap (c.aesEncrypt seed config.masterKey config.iv.toList)
  return {
    version := walletVersion
    iv := Hex.encode config.iv.toList
    masterKey := Hex.encode masterKeyCipher
    seedEncrypted := Hex.encode seedCipher
    address := account.address c.toHashes
    scrypt := config.scrypt }

/-- `WalletData::decrypt_master_key`. -/
def decryptMasterKey (c : Crates) (data : WalletData) (password : String) :
    KeystoreCall Bytes := do
  let passwordKey ← scryptKdf c password data.scrypt
  let iv ← unwrap (Hex.decode data.iv)
  let masterKeyCipher ← unwrap (Hex.decode data.masterKey)
  unwrap (c.aesDecrypt masterKeyCipher passwordKey.toList iv)

/-- `try_into` to a seed. -/
def seedOf (bytes : Bytes) : Option (Vector UInt8 seedLen) :=
  if h : bytes.length = seedLen then some ⟨bytes.toArray, h⟩ else none

/-- `WalletData::decrypt_account`. -/
def decryptAccount (c : Crates) (data : WalletData) (password : String) :
    KeystoreCall Account := do
  let masterKey ← data.decryptMasterKey c password
  let iv ← unwrap (Hex.decode data.iv)
  let seedCipher ← unwrap (Hex.decode data.seedEncrypted)
  let bytes ← unwrap (c.aesDecrypt seedCipher masterKey iv)
  let seed ← unwrap (seedOf bytes)
  return Account.fromSeed c.toHashes c.publicKeyOf seed

end WalletData

/-! ## Wallets -/

namespace Wallet

/-- `Wallet::new`. -/
def new (c : Crates) (account : Account) (config : WalletConfig) : KeystoreCall Wallet := do
  let walletData ← WalletData.new c account config
  return { config, account, walletData }

/-- `Wallet::to_json`. -/
def toJson (c : Crates) (wallet : Wallet) : KeystoreCall String := do
  let json ← wallet.walletData.toJson c.overflow
  return c.printJson json

/-- The `WalletData` that a text deserialises to. -/
def readData (c : Crates) (json : String) : Except String WalletData :=
  match (c.parseJson json).bind WalletData.ofJson with
  | some walletData => .ok walletData
  | none => .error "Invalid JSON"

/-- `Wallet::from_json`. -/
def fromJson (c : Crates) (json : String) (config : WalletConfig) : KeystoreCall Wallet := do
  let walletData ← ofExcept (readData c json)
  let masterKey ← walletData.decryptMasterKey c config.password
  let account ← walletData.decryptAccount c config.password
  if account.address c.toHashes ≠ walletData.address then throw "Wrong password"
  else return { config := { config with masterKey }, account, walletData }

end Wallet

/-! ## JSON there and back -/

/-- The cost comes back from the number that it is written as. -/
theorem log2Deserialize_serialize {x : UInt8} (h : x.toNat ≤ 30) :
    log2Deserialize (.int ((1 : Int32) <<< Int32.ofNat (x.toNat % 32)).toInt) = some x := by
  have hall : ∀ n ≤ 30, log2Deserialize (.int ((1 : Int32) <<< Int32.ofNat (n % 32)).toInt) =
      some (UInt8.ofNat n) := by
    decide
  rw [hall x.toNat h, UInt8.ofNat_toNat]

theorem ScryptConfig.ofJson_toJson (o : Overflow) {s : ScryptConfig} (h : s.logN.toNat ≤ 30) :
    ∃ json, s.toJson o () = (.ok json, ()) ∧ ScryptConfig.ofJson json = some s := by
  have hfits : s.logN.toNat < 32 := by omega
  refine ⟨s.object ((1 : Int32) <<< Int32.ofNat (s.logN.toNat % 32)), ?_, ?_⟩
  · rw [ScryptConfig.toJson, log2Serialize, arith_of_fits hfits, pure_bind]
    rfl
  · have hfields : (s.object ((1 : Int32) <<< Int32.ofNat (s.logN.toNat % 32))).fields
        ["N", "R", "P", "Salt"] = some [.int ((1 : Int32) <<< Int32.ofNat
          (s.logN.toNat % 32)).toInt, .int s.r.toNat, .int s.p.toNat, .str s.salt] := rfl
    rw [ScryptConfig.ofJson, hfields]
    dsimp only
    rw [log2Deserialize_serialize h, Json.asU32_toNat, Json.asU32_toNat]
    rfl

theorem WalletData.ofJson_toJson (o : Overflow) {data : WalletData}
    (h : data.scrypt.logN.toNat ≤ 30) :
    ∃ json, data.toJson o () = (.ok json, ()) ∧ WalletData.ofJson json = some data := by
  obtain ⟨scrypt, hto, hof⟩ := ScryptConfig.ofJson_toJson o h
  refine ⟨data.object scrypt, ?_, ?_⟩
  · rw [WalletData.toJson, bind_ok hto]
    rfl
  · have hfields : (data.object scrypt).fields
        ["Version", "IV", "MasterKey", "SeedEncrypted", "Address", "Scrypt"] =
          some [.int data.version.toNat, .str data.iv, .str data.masterKey,
            .str data.seedEncrypted, .str data.address, scrypt] := rfl
    rw [WalletData.ofJson, hfields]
    dsimp only
    rw [Json.asU32_toNat, hof]
    rfl

/-! ## Encrypting and decrypting again -/

/-- AES-CBC without padding takes whole blocks, and decrypts what it encrypted. -/
def Crates.AesInverts (c : Crates) : Prop :=
  ∀ input key iv : Bytes, key.length = aesHashLen → iv.length = ivLen → 16 ∣ input.length →
    ∃ cipher, c.aesEncrypt input key iv = some cipher ∧ c.aesDecrypt cipher key iv = some input

/-- The parameters are ones that scrypt takes and the JSON can say. -/
structure ScryptConfig.Usable (c : Crates) (password : String) (s : ScryptConfig) : Prop where
  one_le_logN : 1 ≤ s.logN.toNat
  logN_le : s.logN.toNat ≤ 30
  derives : ∃ salt key, Hex.decode s.salt = some salt ∧
    c.scrypt password.toUTF8.toList salt s.logN s.r s.p = some key

/-- The text of the JSON of `data` is parsed as that JSON. -/
def Crates.JsonRoundTrips (c : Crates) (data : WalletData) : Prop :=
  ∀ json, data.toJson c.overflow () = (.ok json, ()) → c.parseJson (c.printJson json) = some json

section Import

variable {c : Crates} {config : WalletConfig}

theorem seedOf_toList (seed : Vector UInt8 seedLen) : WalletData.seedOf seed.toList = some seed := by
  have hlen : seed.toList.length = seedLen := seed.size_toArray
  rw [WalletData.seedOf, dif_pos hlen]
  rfl

/-- What is encrypted for a wallet is decrypted with its password. -/
theorem WalletData.new_ok (haes : c.AesInverts)
    (hmaster : config.masterKey.length = masterKeyLen)
    (hscrypt : config.scrypt.Usable c config.password) (seed : Vector UInt8 seedLen) :
    ∃ data,
      WalletData.new c (Account.fromSeed c.toHashes c.publicKeyOf seed) config () = (.ok data, ()) ∧
        data.decryptMasterKey c config.password () = (.ok config.masterKey, ()) ∧
        data.decryptAccount c config.password () =
          (.ok (Account.fromSeed c.toHashes c.publicKeyOf seed), ()) ∧
        data.address = (Account.fromSeed c.toHashes c.publicKeyOf seed).address c.toHashes ∧
        data.scrypt = config.scrypt := by
  obtain ⟨salt, key, hsalt, hkey⟩ := hscrypt.derives
  have hderive : scryptKdf c config.password config.scrypt () = (.ok key, ()) := by
    rw [scryptKdf, hsalt, unwrap_some, pure_bind, hkey]
    rfl
  have hiv : config.iv.toList.length = ivLen := config.iv.size_toArray
  have hseed : seed.toList.length = seedLen := seed.size_toArray
  obtain ⟨masterKeyCipher, hmasterEnc, hmasterDec⟩ := haes config.masterKey key.toList
    config.iv.toList key.size_toArray hiv (by rw [hmaster]; decide)
  obtain ⟨seedCipher, hseedEnc, hseedDec⟩ := haes seed.toList config.masterKey
    config.iv.toList hmaster hiv (by rw [hseed]; decide)
  let data : WalletData :=
    { version := walletVersion
      iv := Hex.encode config.iv.toList
      masterKey := Hex.encode masterKeyCipher
      seedEncrypted := Hex.encode seedCipher
      address := (Account.fromSeed c.toHashes c.publicKeyOf seed).address c.toHashes
      scrypt := config.scrypt }
  have hnew : WalletData.new c (Account.fromSeed c.toHashes c.publicKeyOf seed) config () =
      (.ok data, ()) := by
    rw [WalletData.new, passwordToAesKeyScrypt, bind_ok hderive, hmasterEnc, unwrap_some, pure_bind]
    dsimp only [Account.fromSeed]
    rw [hseedEnc]
    rfl
  have hmasterKey : data.decryptMasterKey c config.password () = (.ok config.masterKey, ()) := by
    rw [WalletData.decryptMasterKey, bind_ok hderive, Hex.decode_encode, unwrap_some, pure_bind,
      Hex.decode_encode, unwrap_some, pure_bind, hmasterDec]
    rfl
  refine ⟨data, hnew, hmasterKey, ?_, rfl, rfl⟩
  rw [WalletData.decryptAccount, bind_ok hmasterKey, Hex.decode_encode, unwrap_some, pure_bind,
    Hex.decode_encode, unwrap_some, pure_bind, hseedDec, unwrap_some, pure_bind, seedOf_toList]
  rfl

end Import

/-- A wallet that is exported and imported with the same password, whatever else the
second configuration has, is the wallet that it was. -/
theorem import_export (c : Crates) (haes : c.AesInverts) (seed : Vector UInt8 seedLen)
    (config config' : WalletConfig) (hmaster : config.masterKey.length = masterKeyLen)
    (hscrypt : config.scrypt.Usable c config.password)
    (hjson : ∀ data, WalletData.new c (Account.fromSeed c.toHashes c.publicKeyOf seed) config () =
      (.ok data, ()) → c.JsonRoundTrips data)
    (hpassword : config'.password = config.password) :
    ∃ wallet json wallet',
      Wallet.new c (Account.fromSeed c.toHashes c.publicKeyOf seed) config () = (.ok wallet, ()) ∧
        wallet.toJson c () = (.ok json, ()) ∧
        Wallet.fromJson c json config' () = (.ok wallet', ()) ∧
        wallet'.account = Account.fromSeed c.toHashes c.publicKeyOf seed ∧
        wallet'.config.masterKey = config.masterKey ∧
        wallet'.toJson c () = (.ok json, ()) := by
  obtain ⟨data, hnew, hmasterKey, haccount, haddress, hparams⟩ :=
    WalletData.new_ok haes hmaster hscrypt seed
  have hlogN : data.scrypt.logN.toNat ≤ 30 := by
    rw [hparams]
    exact hscrypt.logN_le
  obtain ⟨json, hto, hof⟩ := WalletData.ofJson_toJson c.overflow hlogN
  have hread : Wallet.readData c (c.printJson json) = .ok data := by
    rw [Wallet.readData, hjson data hnew json hto, Option.bind_some, hof]
  have hwallet : Wallet.new c (Account.fromSeed c.toHashes c.publicKeyOf seed) config () =
      (.ok ⟨config, Account.fromSeed c.toHashes c.publicKeyOf seed, data⟩, ()) := by
    rw [Wallet.new, bind_ok hnew]
    rfl
  have hexport (config : WalletConfig) (account : Account) :
      Wallet.toJson c ⟨config, account, data⟩ () = (.ok (c.printJson json), ()) := by
    rw [Wallet.toJson, bind_ok hto]
    rfl
  have himport : Wallet.fromJson c (c.printJson json) config' () =
      (.ok ⟨{ config' with masterKey := config.masterKey },
        Account.fromSeed c.toHashes c.publicKeyOf seed, data⟩, ()) := by
    rw [Wallet.fromJson, hread, ofExcept_ok, pure_bind, hpassword, bind_ok hmasterKey,
      bind_ok haccount, if_neg (by simp [haddress])]
    rfl
  exact ⟨_, _, _, hwallet, hexport _ _, himport, rfl, rfl, hexport _ _⟩

/-! ## A wallet

The account of the sample seed with the password `123456`.  The key that is derived,
the two ciphers and the text are the real ones. -/

def sampleConfig : WalletConfig where
  seedRpcServer := []
  rpcTimeout := 10
  rcpConcurrency := 1
  password := "123456"
  iv := Vector.replicate 16 3
  masterKey := List.replicate 32 2
  scrypt := { logN := 1, r := 8, p := 1, salt := "0001020304050607" }

def samplePasswordKey : Vector UInt8 aesHashLen :=
  ⟨#[
    117, 209, 174, 180, 167, 121, 118, 228, 144, 17, 90, 138, 11, 87, 8, 59,
    169, 150, 17, 73, 244, 163, 122, 30, 38, 173, 82, 134, 38, 138, 104, 84], rfl⟩

def sampleMasterKeyCipher : Bytes :=
  [74, 94, 179, 31, 19, 138, 32, 63, 65, 86, 141, 140, 181, 186, 185, 224,
    71, 101, 233, 233, 24, 230, 166, 98, 174, 114, 225, 212, 194, 224, 147, 141]

def sampleSeedCipher : Bytes :=
  [156, 58, 233, 211, 50, 16, 48, 23, 108, 170, 57, 86, 43, 0, 132, 132,
    202, 24, 13, 229, 233, 164, 18, 110, 232, 81, 152, 37, 56, 220, 253, 73]

/-- AES on the two messages and their ciphers, one for each key. -/
def sampleAes (input key : Bytes) : Bytes :=
  if key = samplePasswordKey.toList then
    Equiv.swap sampleConfig.masterKey sampleMasterKeyCipher input
  else Equiv.swap (List.replicate 32 1) sampleSeedCipher input

def sampleData : WalletData where
  version := 2
  iv := "03030303030303030303030303030303"
  masterKey := "4a5eb31f138a203f41568d8cb5bab9e04765e9e918e6a662ae72e1d4c2e0938d"
  seedEncrypted := "9c3ae9d3321030176caa39562b008484ca180de5e9a4126ee851982538dcfd49"
  address := "NKNYmsC2xFvjvdxBqgvgRqx88C3vhtecfqah"
  scrypt := sampleConfig.scrypt

def sampleJson : String :=
  "\x7b\"Version\":2,\"IV\":\"03030303030303030303030303030303\"," ++
  "\"MasterKey\":\"4a5eb31f138a203f41568d8cb5bab9e04765e9e918e6a662ae72e1d4c2e0938d\"," ++
  "\"SeedEncrypted\":\"9c3ae9d3321030176caa39562b008484ca180de5e9a4126ee851982538dcfd49\"," ++
  "\"Address\":\"NKNYmsC2xFvjvdxBqgvgRqx88C3vhtecfqah\"," ++
  "\"Scrypt\":\x7b\"N\":2,\"R\":8,\"P\":1,\"Salt\":\"0001020304050607\"\x7d\x7d"

def sampleCrates : Crates where
  toHashes := sampleHashes
  overflow := .checked
  publicKeyOf := fun _ => sampleWallet.publicKey
  scrypt := fun _ _ _ _ _ => some samplePasswordKey
  aesEncrypt := fun input key _ => some (sampleAes input key)
  aesDecrypt := fun input key _ => some (sampleAes input key)
  printJson := fun _ => sampleJson
  parseJson := fun text =>
    if text = sampleJson then some (sampleData.object (sampleConfig.scrypt.object 2)) else none

theorem sample_aesInverts : sampleCrates.AesInverts := by
  intro input key iv _ _ _
  refine ⟨sampleAes input key, rfl, ?_⟩
  show some (sampleAes (sampleAes input key) key) = some input
  by_cases hkey : key = samplePasswordKey.toList
  · simp [sampleAes, hkey]
  · simp [sampleAes, hkey]

theorem sample_jsonRoundTrips {data : WalletData}
    (h : WalletData.new sampleCrates sampleAccount sampleConfig () = (.ok data, ())) :
    sampleCrates.JsonRoundTrips data := by
  have hnew : WalletData.new sampleCrates sampleAccount sampleConfig () = (.ok sampleData, ()) := by
    decide +kernel
  have hdata : sampleData = data := by
    rw [hnew] at h
    simpa using h
  rw [← hdata]
  intro json hto
  have hjson : sampleData.toJson .checked () =
      (.ok (sampleData.object (sampleConfig.scrypt.object 2)), ()) := by
    rw [WalletData.toJson, ScryptConfig.toJson, log2Serialize, arith_of_fits (by decide), pure_bind]
    rfl
  rw [show sampleCrates.overflow = .checked from rfl, hjson, Prod.mk.injEq, Outcome.ok.injEq] at hto
  rw [← hto.1]
  simp only [sampleCrates, if_true]

/-- It comes back under a configuration that has only the password in common. -/
theorem sample_import_export :
    ∃ wallet json wallet',
      Wallet.new sampleCrates sampleAccount sampleConfig () = (.ok wallet, ()) ∧
        wallet.toJson sampleCrates () = (.ok json, ()) ∧
        Wallet.fromJson sampleCrates json
          { sampleConfig with iv := Vector.replicate 16 9, masterKey := [] } () =
            (.ok wallet', ()) ∧
        wallet'.account = sampleAccount ∧ wallet'.config.masterKey = sampleConfig.masterKey ∧
        wallet'.toJson sampleCrates () = (.ok json, ()) :=
  import_export sampleCrates sample_aesInverts (Vector.replicate 32 1) sampleConfig
    { sampleConfig with iv := Vector.replicate 16 9, masterKey := [] } (by decide)
    ⟨by decide, by decide, [0, 1, 2, 3, 4, 5, 6, 7], samplePasswordKey, by decide +kernel, rfl⟩
    (fun _ h => sample_jsonRoundTrips h) rfl

end NknSdk.Keystore
