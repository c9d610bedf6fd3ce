/-!
# Powers

A power of natural numbers is the one of the core library in every module, whatever else the module
imports.
-/

attribute [instance (20000), default_instance 20000] instPowNat
