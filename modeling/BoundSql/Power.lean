/-! Powers of integers by the core instance, whichever other instances a module imports. -/

namespace BoundSql

@[default_instance 20000]
scoped instance (priority := 2000) natPow : Pow Nat Nat := instPowNat

@[default_instance 20000]
scoped instance (priority := 2000) intPow : Pow Int Nat := instPowNat

end BoundSql
