namespace TextScan

structure Location where
  line : Nat
  column : Nat
  offset : Nat
deriving DecidableEq, Repr

end TextScan
