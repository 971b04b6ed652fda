import FighterCheck.Resources.Location

/-!
# The templates of the common state file that come with the program

One template for each version of the engine that is told apart.
-/

namespace FighterCheck.Resources

/-- The common states of version 1.0. -/
def commonStates10 : String := r#"; Common states (MUGEN 1.0)
; Used when a character declares the default stcommon but does not ship
; its own copy.

;---------------------------------------------------------------------------
; Stand
[Statedef 0]
type = S
physics = S
sprpriority = 0

[State 0, 1]
type = ChangeAnim
trigger1 = Anim != 0 && Anim != 5
trigger2 = Anim = 5 && AnimTime = 0
value = 0

[State 0, 2]
type = VelSet
trigger1 = Time = 0
y = 0

[State 0, 3]
type = VelSet
trigger1 = abs(vel x) < 2
trigger2 = Time = 4
x = 0

;---------------------------------------------------------------------------
; Stand to crouch
[Statedef 10]
type = C
physics = C
anim = 10

[State 10, 1]
type = VelMul
trigger1 = 1
x = .75

[State 10, 2]
type = ChangeState
trigger1 = AnimTime = 0
value = 11

;---------------------------------------------------------------------------
; Crouching
[Statedef 11]
type = C
physics = C
anim = 11
sprpriority = 0

[State 11, 1]
type = ChangeAnim
trigger1 = Anim = 6 && AnimTime = 0
value = 11

[State 11, 2]
type = VelSet
trigger1 = Time = 0
x = 0

;---------------------------------------------------------------------------
; Crouch to stand
[Statedef 12]
type = S
physics = S
anim = 12

[State 12, 1]
type = ChangeState
trigger1 = AnimTime = 0
value = 0

;---------------------------------------------------------------------------
; Walk
[Statedef 20]
type = S
physics = S
sprpriority = 0

[State 20, 1]
type = VelSet
trigger1 = command = "holdfwd"
x = const(velocity.walk.fwd.x)

[State 20, 2]
type = VelSet
trigger1 = command = "holdback"
x = const(velocity.walk.back.x)

[State 20, 3]
type = ChangeAnim
triggerall = vel x > 0
trigger1 = Anim != 20 && Anim != 5
value = 20

[State 20, 4]
type = ChangeAnim
triggerall = vel x < 0
trigger1 = Anim != 21 && Anim != 5
value = 21

;---------------------------------------------------------------------------
; Jump start
[Statedef 40]
type = S
physics = S
anim = 40
ctrl = 0
sprpriority = 1

[State 40, 1]
type = VarSet
trigger1 = Time = 0
sysvar = 1
value = 0

[State 40, 2]
type = ChangeState
trigger1 = AnimTime = 0
value = 50
ctrl = 1

;---------------------------------------------------------------------------
; Jump up
[Statedef 50]
type = A
physics = A

[State 50, 1]
type = ChangeAnim
trigger1 = Time = 0
value = ifelse((vel x)=0, 41, ifelse((vel x)>0, 42, 43))

[State 50, 2]
type = ChangeAnim
trigger1 = Vel y > -2
trigger1 = SelfAnimExist(anim + 3)
persistent = 0
value = Anim + 3

;---------------------------------------------------------------------------
; Jump land
[Statedef 52]
type = S
physics = S
ctrl = 0
anim = 47

[State 52, 1]
type = VelSet
trigger1 = Time = 0
y = 0

[State 52, 2]
type = PosSet
trigger1 = Time = 0
y = 0

[State 52, 3]
type = CtrlSet
trigger1 = Time = 3
value = 1

[State 52, 4]
type = ChangeState
trigger1 = AnimTime = 0
value = 0
ctrl = 1

;---------------------------------------------------------------------------
; Guard start
[Statedef 120]
type = U
physics = U

[State 120, 1]
type = ChangeAnim
trigger1 = Time = 0
value = 120 + (statetype = C) + (statetype = A)*2

[State 120, 2]
type = StateTypeSet
trigger1 = Time = 0 && statetype = S
physics = S

[State 120, 3]
type = ChangeState
trigger1 = AnimTime = 0
value = 130 + (statetype = C) + (statetype = A)*2

;---------------------------------------------------------------------------
; Stand guard (guarding)
[Statedef 130]
type = S
physics = S

[State 130, 1]
type = ChangeAnim
trigger1 = Anim != 130
value = 130

[State 130, 2]
type = ChangeState
trigger1 = command != "holdback"
value = 140

;---------------------------------------------------------------------------
; Guard end
[Statedef 140]
type = U
physics = U
ctrl = 1

[State 140, 1]
type = ChangeAnim
trigger1 = Time = 0
value = 140 + (statetype = C) + (statetype = A)*2

[State 140, 2]
type = ChangeState
trigger1 = AnimTime = 0
value = 0

;---------------------------------------------------------------------------
; Taunt
[Statedef 195]
type = S
ctrl = 0
anim = 195
velset = 0,0

[State 195, 1]
type = ChangeState
trigger1 = AnimTime = 0
value = 0
ctrl = 1

;---------------------------------------------------------------------------
; Stand get-hit (shaking)
[Statedef 5000]
type = S
movetype = H
physics = N
velset = 0,0

[State 5000, 1]
type = ChangeAnim
trigger1 = Time = 0
value = ifelse((GetHitVar(animtype)) = 3, 5030, 5000 + GetHitVar(animtype))

[State 5000, 2]
type = ChangeState
trigger1 = HitShakeOver
value = 5001

;---------------------------------------------------------------------------
; Stand get-hit (knocked back)
[Statedef 5001]
type = S
movetype = H
physics = S

[State 5001, 1]
type = HitVelSet
trigger1 = Time = 0
x = 1

[State 5001, 2]
type = VelSet
trigger1 = Time = GetHitVar(slidetime)
x = 0

[State 5001, 3]
type = CtrlSet
trigger1 = Time = GetHitVar(ctrltime)
value = 1

[State 5001, 4]
type = ChangeState
trigger1 = HitOver
value = 0
ctrl = 1

;---------------------------------------------------------------------------
; Lie down
[Statedef 5110]
type = L
movetype = H
physics = N

[State 5110, 1]
type = HitFallDamage
trigger1 = Time = 0

[State 5110, 2]
type = NotHitBy
trigger1 = 1
value = SCA
time = 1

[State 5110, 3]
type = ChangeState
trigger1 = Time >= 60
value = 5120

;---------------------------------------------------------------------------
; Get up from lying down
[Statedef 5120]
type = L
movetype = I
physics = N

[State 5120, 1]
type = ChangeAnim
trigger1 = Time = 0
value = 5120

[State 5120, 2]
type = ChangeState
trigger1 = AnimTime = 0
value = 0
ctrl = 1

;---------------------------------------------------------------------------
; Initialize (at the start of the round)
[Statedef 5900]
type = S

[State 5900, 1]
type = VarRangeSet
trigger1 = RoundsExisted = 0
value = 0

[State 5900, 2]
type = VarRangeSet
trigger1 = RoundsExisted = 0
fvalue = 0

[State 5900, 3]
type = ChangeState
trigger1 = RoundNo = 1
value = 190

[State 5900, 4]
type = ChangeState
trigger1 = 1
value = 0
"#

/-- The common states of version 1.1. -/
def commonStates11 : String := r#"; Common states (MUGEN 1.1)
; Used when a character declares the default stcommon but does not ship
; its own copy.

;---------------------------------------------------------------------------
; Stand
[Statedef 0]
type = S
physics = S
sprpriority = 0

[State 0, 1]
type = ChangeAnim
trigger1 = Anim != 0 && Anim != 5
trigger2 = Anim = 5 && AnimTime = 0
value = 0

[State 0, 2]
type = VelSet
trigger1 = Time = 0
y = 0

[State 0, 3]
type = VelSet
trigger1 = abs(vel x) < Const(movement.stand.friction.threshold)
x = 0

[State 0, 4]
type = AngleDraw
trigger1 = AnimElemTime(1) < 0
value = 0

;---------------------------------------------------------------------------
; Stand to crouch
[Statedef 10]
type = C
physics = C
anim = 10

[State 10, 1]
type = VelMul
trigger1 = 1
x = .75

[State 10, 2]
type = ChangeState
trigger1 = AnimTime = 0
value = 11

;---------------------------------------------------------------------------
; Crouching
[Statedef 11]
type = C
physics = C
anim = 11
sprpriority = 0

[State 11, 1]
type = ChangeAnim
trigger1 = Anim = 6 && AnimTime = 0
value = 11

[State 11, 2]
type = VelSet
trigger1 = Time = 0
x = 0

;---------------------------------------------------------------------------
; Crouch to stand
[Statedef 12]
type = S
physics = S
anim = 12

[State 12, 1]
type = ChangeState
trigger1 = AnimTime = 0
value = 0

;---------------------------------------------------------------------------
; Walk
[Statedef 20]
type = S
physics = S
sprpriority = 0

[State 20, 1]
type = VelSet
trigger1 = command = "holdfwd"
x = const(velocity.walk.fwd.x)

[State 20, 2]
type = VelSet
trigger1 = command = "holdback"
x = const(velocity.walk.back.x)

[State 20, 3]
type = ChangeAnim
triggerall = vel x > 0
trigger1 = Anim != 20 && Anim != 5
value = 20

[State 20, 4]
type = ChangeAnim
triggerall = vel x < 0
trigger1 = Anim != 21 && Anim != 5
value = 21

;---------------------------------------------------------------------------
; Jump start
[Statedef 40]
type = S
physics = S
anim = 40
ctrl = 0
sprpriority = 1

[State 40, 1]
type = VarSet
trigger1 = Time = 0
sysvar = 1
value = 0

[State 40, 2]
type = ChangeState
trigger1 = AnimTime = 0
value = 50
ctrl = 1

;---------------------------------------------------------------------------
; Jump up
[Statedef 50]
type = A
physics = A

[State 50, 1]
type = ChangeAnim
trigger1 = Time = 0
value = ifelse((vel x)=0, 41, ifelse((vel x)>0, 42, 43))

[State 50, 2]
type = ChangeAnim
trigger1 = Vel y > -2
trigger1 = SelfAnimExist(anim + 3)
persistent = 0
value = Anim + 3

;---------------------------------------------------------------------------
; Jump land
[Statedef 52]
type = S
physics = S
ctrl = 0
anim = 47

[State 52, 1]
type = VelSet
trigger1 = Time = 0
y = 0

[State 52, 2]
type = PosSet
trigger1 = Time = 0
y = 0

[State 52, 3]
type = CtrlSet
trigger1 = Time = 3
value = 1

[State 52, 4]
type = ChangeState
trigger1 = AnimTime = 0
value = 0
ctrl = 1

;---------------------------------------------------------------------------
; Guard start
[Statedef 120]
type = U
physics = U

[State 120, 1]
type = ChangeAnim
trigger1 = Time = 0
value = 120 + (statetype = C) + (statetype = A)*2

[State 120, 2]
type = StateTypeSet
trigger1 = Time = 0 && statetype = S
physics = S

[State 120, 3]
type = ChangeState
trigger1 = AnimTime = 0
value = 130 + (statetype = C) + (statetype = A)*2

;---------------------------------------------------------------------------
; Stand guard (guarding)
[Statedef 130]
type = S
physics = S

[State 130, 1]
type = ChangeAnim
trigger1 = Anim != 130
value = 130

[State 130, 2]
type = ChangeState
trigger1 = command != "holdback"
value = 140

;---------------------------------------------------------------------------
; Guard end
[Statedef 140]
type = U
physics = U
ctrl = 1

[State 140, 1]
type = ChangeAnim
trigger1 = Time = 0
value = 140 + (statetype = C) + (statetype = A)*2

[State 140, 2]
type = ChangeState
trigger1 = AnimTime = 0
value = 0

;---------------------------------------------------------------------------
; Taunt
[Statedef 195]
type = S
ctrl = 0
anim = 195
velset = 0,0

[State 195, 1]
type = ChangeState
trigger1 = AnimTime = 0
value = 0
ctrl = 1

;---------------------------------------------------------------------------
; Stand get-hit (shaking)
[Statedef 5000]
type = S
movetype = H
physics = N
velset = 0,0

[State 5000, 1]
type = ChangeAnim
trigger1 = Time = 0
value = ifelse((GetHitVar(animtype)) = 3, 5030, 5000 + GetHitVar(animtype))

[State 5000, 2]
type = ChangeState
trigger1 = HitShakeOver
value = 5001

;---------------------------------------------------------------------------
; Stand get-hit (knocked back)
[Statedef 5001]
type = S
movetype = H
physics = S

[State 5001, 1]
type = HitVelSet
trigger1 = Time = 0
x = 1

[State 5001, 2]
type = VelSet
trigger1 = Time = GetHitVar(slidetime)
x = 0

[State 5001, 3]
type = CtrlSet
trigger1 = Time = GetHitVar(ctrltime)
value = 1

[State 5001, 4]
type = ChangeState
trigger1 = HitOver
value = 0
ctrl = 1

;---------------------------------------------------------------------------
; Lie down
[Statedef 5110]
type = L
movetype = H
physics = N

[State 5110, 1]
type = HitFallDamage
trigger1 = Time = 0

[State 5110, 2]
type = NotHitBy
trigger1 = 1
value = SCA
time = 1

[State 5110, 3]
type = ChangeState
trigger1 = Time >= 60
value = 5120

;---------------------------------------------------------------------------
; Get up from lying down
[Statedef 5120]
type = L
movetype = I
physics = N

[State 5120, 1]
type = ChangeAnim
trigger1 = Time = 0
value = 5120

[State 5120, 2]
type = ChangeState
trigger1 = AnimTime = 0
value = 0
ctrl = 1

;---------------------------------------------------------------------------
; Initialize (at the start of the round)
[Statedef 5900]
type = S

[State 5900, 1]
type = VarRangeSet
trigger1 = RoundsExisted = 0
value = 0

[State 5900, 2]
type = VarRangeSet
trigger1 = RoundsExisted = 0
fvalue = 0

[State 5900, 3]
type = ChangeState
trigger1 = RoundNo = 1
value = 190

[State 5900, 4]
type = ChangeState
trigger1 = 1
value = 0
"#

/-- The common states of the engine on Windows. -/
def commonStatesWin : String := r#"; Common states (MUGEN for Windows)
; Used when a character declares the default stcommon but does not ship
; its own copy.

;---------------------------------------------------------------------------
; Stand
[Statedef 0]
type = S
physics = S
sprpriority = 0

[State 0, 1]
type = ChangeAnim
trigger1 = Anim != 0 && Anim != 5
trigger2 = Anim = 5 && AnimTime = 0
value = 0

[State 0, 2]
type = VelSet
trigger1 = Time = 0
y = 0

[State 0, 3]
type = VelSet
trigger1 = abs(vel x) < 2
trigger2 = Time = 4
x = 0

;---------------------------------------------------------------------------
; Stand to crouch
[Statedef 10]
type = C
physics = C
anim = 10

[State 10, 1]
type = VelMul
trigger1 = 1
x = .75

[State 10, 2]
type = ChangeState
trigger1 = AnimTime = 0
value = 11

;---------------------------------------------------------------------------
; Crouching
[Statedef 11]
type = C
physics = C
anim = 11
sprpriority = 0

[State 11, 1]
type = ChangeAnim
trigger1 = Anim = 6 && AnimTime = 0
value = 11

[State 11, 2]
type = VelSet
trigger1 = Time = 0
x = 0

;---------------------------------------------------------------------------
; Crouch to stand
[Statedef 12]
type = S
physics = S
anim = 12

[State 12, 1]
type = ChangeState
trigger1 = AnimTime = 0
value = 0

;---------------------------------------------------------------------------
; Walk
[Statedef 20]
type = S
physics = S
sprpriority = 0

[State 20, 1]
type = VelSet
trigger1 = command = "holdfwd"
x = const(velocity.walk.fwd.x)

[State 20, 2]
type = VelSet
trigger1 = command = "holdback"
x = const(velocity.walk.back.x)

[State 20, 3]
type = ChangeAnim
triggerall = vel x > 0
trigger1 = Anim != 20 && Anim != 5
value = 20

[State 20, 4]
type = ChangeAnim
triggerall = vel x < 0
trigger1 = Anim != 21 && Anim != 5
value = 21

;---------------------------------------------------------------------------
; Jump start
[Statedef 40]
type = S
physics = S
anim = 40
ctrl = 0
sprpriority = 1

[State 40, 1]
type = VarSet
trigger1 = Time = 0
sysvar = 1
value = 0

[State 40, 2]
type = ChangeState
trigger1 = AnimTime = 0
value = 50
ctrl = 1

;---------------------------------------------------------------------------
; Jump up
[Statedef 50]
type = A
physics = A

[State 50, 1]
type = ChangeAnim
trigger1 = Time = 0
value = ifelse((vel x)=0, 41, ifelse((vel x)>0, 42, 43))

[State 50, 2]
type = ChangeAnim
trigger1 = Vel y > -2
trigger1 = SelfAnimExist(anim + 3)
persistent = 0
value = Anim + 3

;---------------------------------------------------------------------------
; Jump land
[Statedef 52]
type = S
physics = S
ctrl = 0
anim = 47

[State 52, 1]
type = VelSet
trigger1 = Time = 0
y = 0

[State 52, 2]
type = PosSet
trigger1 = Time = 0
y = 0

[State 52, 3]
type = CtrlSet
trigger1 = Time = 3
value = 1

[State 52, 4]
type = ChangeState
trigger1 = AnimTime = 0
value = 0
ctrl = 1

;---------------------------------------------------------------------------
; Guard start
[Statedef 120]
type = U
physics = U

[State 120, 1]
type = ChangeAnim
trigger1 = Time = 0
value = 120 + (statetype = C) + (statetype = A)*2

[State 120, 2]
type = StateTypeSet
trigger1 = Time = 0 && statetype = S
physics = S

[State 120, 3]
type = ChangeState
trigger1 = AnimTime = 0
value = 130 + (statetype = C) + (statetype = A)*2

;---------------------------------------------------------------------------
; Stand guard (guarding)
[Statedef 130]
type = S
physics = S

[State 130, 1]
type = ChangeAnim
trigger1 = Anim != 130
value = 130

[State 130, 2]
type = ChangeState
trigger1 = command != "holdback"
value = 140

;---------------------------------------------------------------------------
; Guard end
[Statedef 140]
type = U
physics = U
ctrl = 1

[State 140, 1]
type = ChangeAnim
trigger1 = Time = 0
value = 140 + (statetype = C) + (statetype = A)*2

[State 140, 2]
type = ChangeState
trigger1 = AnimTime = 0
value = 0

;---------------------------------------------------------------------------
; Stand get-hit (shaking)
[Statedef 5000]
type = S
movetype = H
physics = N
velset = 0,0

[State 5000, 1]
type = ChangeAnim
trigger1 = Time = 0
value = ifelse((GetHitVar(animtype)) = 3, 5030, 5000 + GetHitVar(animtype))

[State 5000, 2]
type = ChangeState
trigger1 = HitShakeOver
value = 5001

;---------------------------------------------------------------------------
; Stand get-hit (knocked back)
[Statedef 5001]
type = S
movetype = H
physics = S

[State 5001, 1]
type = HitVelSet
trigger1 = Time = 0
x = 1

[State 5001, 2]
type = VelSet
trigger1 = Time = GetHitVar(slidetime)
x = 0

[State 5001, 3]
type = CtrlSet
trigger1 = Time = GetHitVar(ctrltime)
value = 1

[State 5001, 4]
type = ChangeState
trigger1 = HitOver
value = 0
ctrl = 1

;---------------------------------------------------------------------------
; Lie down
[Statedef 5110]
type = L
movetype = H
physics = N

[State 5110, 1]
type = HitFallDamage
trigger1 = Time = 0

[State 5110, 2]
type = NotHitBy
trigger1 = 1
value = SCA
time = 1

[State 5110, 3]
type = ChangeState
trigger1 = Time >= 60
value = 5120

;---------------------------------------------------------------------------
; Get up from lying down
[Statedef 5120]
type = L
movetype = I
physics = N

[State 5120, 1]
type = ChangeAnim
trigger1 = Time = 0
value = 5120

[State 5120, 2]
type = ChangeState
trigger1 = AnimTime = 0
value = 0
ctrl = 1

;---------------------------------------------------------------------------
; Initialize (at the start of the round)
[Statedef 5900]
type = S

[State 5900, 1]
type = VarRangeSet
trigger1 = RoundsExisted = 0
value = 0

[State 5900, 2]
type = VarRangeSet
trigger1 = RoundsExisted = 0
fvalue = 0

[State 5900, 3]
type = ChangeState
trigger1 = RoundNo = 1
value = 190

[State 5900, 4]
type = ChangeState
trigger1 = 1
value = 0
"#

/-- The text of a template. -/
def CommonTemplate.text : CommonTemplate → String
  | .v10 => commonStates10
  | .v11 => commonStates11
  | .win => commonStatesWin

end FighterCheck.Resources
