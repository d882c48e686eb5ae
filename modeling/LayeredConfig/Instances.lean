/-!
Powers, the equality of bytes and what is asked of all elements of a list or an option have
instances in other libraries too. The core library's are meant throughout, so that a definition is
the same whatever is imported beside it.
-/

attribute [instance (2000), default_instance (20000)] instPowNat

attribute [instance (2000)] ByteArray.instDecidableEq List.decidableBAll Option.decidableForallMem
