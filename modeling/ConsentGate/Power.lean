-- Powers of naturals and integers are the core operations, whatever other structure on these types is in
-- scope: `2 ^ 64` is one term in the program and in its theory.
attribute [instance(2000), default_instance(20000)] instPowNat
