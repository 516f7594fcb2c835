import Mathlib.Logic.Basic

/-!
# Node errors

`error::NKNError`, the error codes of a node, and its `From<i64>`, which panics on
a number that is no code.
-/

namespace NknSdk

inductive NKNError where
  | success
  | sessionExpired
  | serviceCeiling
  | illegalDataFormat
  | invalidMethod
  | invalidParams
  | invalidToken
  | invalidTransaction
  | invalidAsset
  | invalidBlock
  | invalidHash
  | invalidVersion
  | unknownTransaction
  | unknownAsset
  | unknownBlock
  | unknownHash
  | internalError
  | smartCodeError
  | wrongNode
  | noCode
  | unknown
  | duplicatedTx
  | inputOutputTooLong
  | duplicateInput
  | assetPrecision
  | transactionBalance
  | attributeProgram
  | transactionContracts
  | transactionPayload
  | doubleSpend
  | txHashDuplicate
  | stateUpdaterVaild
  | summaryAsset
  | xmitFail
  | duplicateName
  | mineReward
  | duplicateSubscription
  | subscriptionLimit
  | doNotPropagate
  | alreadySubscribed
  | appendTxnPool
  | nullId
  | zeroId
  | nullDb
deriving DecidableEq, Repr

namespace NKNError

def codes : List (Int × NKNError) :=
  [ (0, .success),
    (41001, .sessionExpired),
    (41002, .serviceCeiling),
    (41003, .illegalDataFormat),
    (42001, .invalidMethod),
    (42002, .invalidParams),
    (42003, .invalidToken),
    (43001, .invalidTransaction),
    (43002, .invalidAsset),
    (43003, .invalidBlock),
    (43004, .invalidHash),
    (43005, .invalidVersion),
    (44001, .unknownTransaction),
    (44002, .unknownAsset),
    (44003, .unknownBlock),
    (44004, .unknownHash),
    (45001, .internalError),
    (47001, .smartCodeError),
    (48001, .wrongNode),
    (-2, .noCode),
    (-1, .unknown),
    (1, .duplicatedTx),
    (45002, .inputOutputTooLong),
    (45003, .duplicateInput),
    (45004, .assetPrecision),
    (45005, .transactionBalance),
    (45006, .attributeProgram),
    (45007, .transactionContracts),
    (45008, .transactionPayload),
    (45009, .doubleSpend),
    (45010, .txHashDuplicate),
    (45011, .stateUpdaterVaild),
    (45012, .summaryAsset),
    (45013, .xmitFail),
    (45015, .duplicateName),
    (45016, .mineReward),
    (45017, .duplicateSubscription),
    (45018, .subscriptionLimit),
    (45019, .doNotPropagate),
    (45020, .alreadySubscribed),
    (45021, .appendTxnPool),
    (45022, .nullId),
    (45023, .zeroId),
    (45024, .nullDb) ]

/-- `From<i64>`. -/
def fromI64 (n : Int) : Option NKNError := codes.lookup n

end NKNError

end NknSdk
