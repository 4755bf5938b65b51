/-!
Why a YAML text denotes no value. Most faults break a rule of the format; the others are scalars
that fit the pattern of their tag and yet name no value, versions with too many digits, and
documents nested beyond measure.
-/
namespace ClassAtlas.Yaml

inductive Fault where
  | malformed
  | impossible (reason : String)
  | overflow (reason : String)
  | unknownWord (word : String)
  | emptyNumber
  | noTimestamp
  | noText
  | tooDeep
  deriving DecidableEq, Repr

end ClassAtlas.Yaml
