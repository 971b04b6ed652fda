/-!
# The schema documents that come with the program

The rules for definitions, those for state blocks, and the controllers with their parameters.
-/

namespace FighterCheck.Resources

/-- The rules for the headers of definitions. -/
def statedefDocument : String := r#"<?xml version="1.0" encoding="utf-8"?>
<!-- Parameters accepted in a [Statedef N] header. -->
<section name="statedef" type="int" comment="true">
  <property name="type" type="enum" optional="true">
    <value val="S"/>
    <value val="C"/>
    <value val="A"/>
    <value val="L"/>
    <value val="U"/>
  </property>
  <property name="movetype" type="enum" optional="true">
    <value val="A"/>
    <value val="I"/>
    <value val="H"/>
    <value val="U"/>
  </property>
  <property name="physics" type="enum" optional="true">
    <value val="S"/>
    <value val="C"/>
    <value val="A"/>
    <value val="N"/>
    <value val="U"/>
  </property>
  <property name="anim" type="int" optional="true"/>
  <property name="velset" type="float tuple" optional="true"/>
  <property name="ctrl" type="bool" optional="true"/>
  <property name="poweradd" type="int" optional="true"/>
  <property name="juggle" type="int" optional="true"/>
  <property name="facep2" type="bool" optional="true"/>
  <property name="hitdefpersist" type="bool" optional="true"/>
  <property name="movehitpersist" type="bool" optional="true"/>
  <property name="hitcountpersist" type="bool" optional="true"/>
  <property name="sprpriority" type="int" optional="true"/>
</section>
"#

/-- The rules for state blocks. -/
def stateDocument : String := r#"<?xml version="1.0" encoding="utf-8"?>
<!-- Parameters shared by every [State N, label] block. -->
<section name="state" type="int" comment="true">
  <property name="type" type="enum" optional="false">
    <value val="AfterImage"/>
    <value val="AfterImageTime"/>
    <value val="AllPalFX"/>
    <value val="AngleAdd"/>
    <value val="AngleDraw"/>
    <value val="AngleMul"/>
    <value val="AngleSet"/>
    <value val="AppendToClipboard"/>
    <value val="AssertSpecial"/>
    <value val="AttackDist"/>
    <value val="AttackMulSet"/>
    <value val="BGPalFX"/>
    <value val="BindToParent"/>
    <value val="BindToRoot"/>
    <value val="BindToTarget"/>
    <value val="ChangeAnim"/>
    <value val="ChangeAnim2"/>
    <value val="ChangeState"/>
    <value val="ClearClipboard"/>
    <value val="CtrlSet"/>
    <value val="DefenceMulSet"/>
    <value val="DestroySelf"/>
    <value val="DisplayToClipboard"/>
    <value val="EnvColor"/>
    <value val="EnvShake"/>
    <value val="Explod"/>
    <value val="ExplodBindTime"/>
    <value val="FallEnvShake"/>
    <value val="ForceFeedback"/>
    <value val="GameMakeAnim"/>
    <value val="Gravity"/>
    <value val="Helper"/>
    <value val="HitAdd"/>
    <value val="HitBy"/>
    <value val="HitDef"/>
    <value val="HitFallDamage"/>
    <value val="HitFallSet"/>
    <value val="HitFallVel"/>
    <value val="HitOverride"/>
    <value val="HitVelSet"/>
    <value val="LifeAdd"/>
    <value val="LifeSet"/>
    <value val="MakeDust"/>
    <value val="ModifyExplod"/>
    <value val="MoveHitReset"/>
    <value val="NotHitBy"/>
    <value val="Null"/>
    <value val="Offset"/>
    <value val="PalFX"/>
    <value val="ParentVarAdd"/>
    <value val="ParentVarSet"/>
    <value val="Pause"/>
    <value val="PlayerPush"/>
    <value val="PlaySnd"/>
    <value val="PosAdd"/>
    <value val="PosFreeze"/>
    <value val="PosSet"/>
    <value val="PowerAdd"/>
    <value val="PowerSet"/>
    <value val="Projectile"/>
    <value val="RemapPal"/>
    <value val="RemoveExplod"/>
    <value val="ReversalDef"/>
    <value val="ScreenBound"/>
    <value val="SelfState"/>
    <value val="SndPan"/>
    <value val="SprPriority"/>
    <value val="StateTypeSet"/>
    <value val="StopSnd"/>
    <value val="SuperPause"/>
    <value val="TargetBind"/>
    <value val="TargetDrop"/>
    <value val="TargetFacing"/>
    <value val="TargetLifeAdd"/>
    <value val="TargetPowerAdd"/>
    <value val="TargetState"/>
    <value val="TargetVelAdd"/>
    <value val="TargetVelSet"/>
    <value val="Trans"/>
    <value val="Turn"/>
    <value val="VarAdd"/>
    <value val="VarRandom"/>
    <value val="VarRangeSet"/>
    <value val="VarSet"/>
    <value val="VelAdd"/>
    <value val="VelMul"/>
    <value val="VelSet"/>
    <value val="VictoryQuote"/>
    <value val="Width"/>
  </property>
  <property name="persistent" type="int" optional="true"/>
  <property name="ignorehitpause" type="bool" optional="true"/>
</section>
"#

/-- The controllers and their parameters. -/
def controllerDocument : String := r#"<?xml version="1.0" encoding="utf-8"?>
<!-- Parameters accepted by each state controller type, in addition to the
     common state parameters in state.xml. Keys starting with "trigger" are
     never listed. -->
<controllers>
  <controller name="AfterImage">
    <property name="time" type="int" optional="true"/>
    <property name="length" type="int" optional="true"/>
    <property name="palcolor" type="int" optional="true"/>
    <property name="palinvertall" type="bool" optional="true"/>
    <property name="palbright" type="int triple" optional="true"/>
    <property name="palcontrast" type="int triple" optional="true"/>
    <property name="palpostbright" type="int triple" optional="true"/>
    <property name="paladd" type="int triple" optional="true"/>
    <property name="palmul" type="float triple" optional="true"/>
    <property name="timegap" type="int" optional="true"/>
    <property name="framegap" type="int" optional="true"/>
    <property name="trans" type="enum" optional="true">
      <value val="none"/>
      <value val="add"/>
      <value val="add1"/>
      <value val="sub"/>
      <value val="addalpha"/>
      <value val="default"/>
    </property>
  </controller>
  <controller name="AfterImageTime">
    <property name="time" type="int" optional="false"/>
  </controller>
  <controller name="AllPalFX">
    <property name="time" type="int" optional="true"/>
    <property name="add" type="int triple" optional="true"/>
    <property name="mul" type="int triple" optional="true"/>
    <property name="sinadd" type="int triple" optional="true"/>
    <property name="invertall" type="bool" optional="true"/>
    <property name="color" type="int" optional="true"/>
  </controller>
  <controller name="AngleAdd">
    <property name="value" type="float" optional="false"/>
  </controller>
  <controller name="AngleDraw">
    <property name="value" type="float" optional="true"/>
    <property name="scale" type="float tuple" optional="true"/>
  </controller>
  <controller name="AngleMul">
    <property name="value" type="float" optional="false"/>
  </controller>
  <controller name="AngleSet">
    <property name="value" type="float" optional="false"/>
  </controller>
  <controller name="AppendToClipboard">
    <property name="text" type="string" optional="false"/>
    <property name="params" type="string" optional="true"/>
  </controller>
  <controller name="AssertSpecial">
    <property name="flag" type="multienum" optional="false">
      <value val="intro"/>
      <value val="invisible"/>
      <value val="roundnotover"/>
      <value val="nobardisplay"/>
      <value val="nobg"/>
      <value val="nofg"/>
      <value val="nostandguard"/>
      <value val="nocrouchguard"/>
      <value val="noairguard"/>
      <value val="noautoturn"/>
      <value val="nojugglecheck"/>
      <value val="nokosnd"/>
      <value val="nokoslow"/>
      <value val="noshadow"/>
      <value val="globalnoshadow"/>
      <value val="nomusic"/>
      <value val="nowalk"/>
      <value val="timerfreeze"/>
      <value val="unguardable"/>
    </property>
    <property name="flag2" type="multienum" optional="true">
      <value val="intro"/>
      <value val="invisible"/>
      <value val="roundnotover"/>
      <value val="nobardisplay"/>
      <value val="nobg"/>
      <value val="nofg"/>
      <value val="nostandguard"/>
      <value val="nocrouchguard"/>
      <value val="noairguard"/>
      <value val="noautoturn"/>
      <value val="nojugglecheck"/>
      <value val="nokosnd"/>
      <value val="nokoslow"/>
      <value val="noshadow"/>
      <value val="globalnoshadow"/>
      <value val="nomusic"/>
      <value val="nowalk"/>
      <value val="timerfreeze"/>
      <value val="unguardable"/>
    </property>
    <property name="flag3" type="multienum" optional="true">
      <value val="intro"/>
      <value val="invisible"/>
      <value val="roundnotover"/>
      <value val="nobardisplay"/>
      <value val="nobg"/>
      <value val="nofg"/>
      <value val="nostandguard"/>
      <value val="nocrouchguard"/>
      <value val="noairguard"/>
      <value val="noautoturn"/>
      <value val="nojugglecheck"/>
      <value val="nokosnd"/>
      <value val="nokoslow"/>
      <value val="noshadow"/>
      <value val="globalnoshadow"/>
      <value val="nomusic"/>
      <value val="nowalk"/>
      <value val="timerfreeze"/>
      <value val="unguardable"/>
    </property>
  </controller>
  <controller name="AttackDist">
    <property name="value" type="int" optional="false"/>
  </controller>
  <controller name="AttackMulSet">
    <property name="value" type="float" optional="false"/>
  </controller>
  <controller name="BGPalFX">
    <property name="time" type="int" optional="true"/>
    <property name="add" type="int triple" optional="true"/>
    <property name="mul" type="int triple" optional="true"/>
    <property name="sinadd" type="int triple" optional="true"/>
    <property name="invertall" type="bool" optional="true"/>
    <property name="color" type="int" optional="true"/>
  </controller>
  <controller name="BindToParent">
    <property name="time" type="int" optional="true"/>
    <property name="facing" type="int" optional="true"/>
    <property name="pos" type="float tuple" optional="true"/>
  </controller>
  <controller name="BindToRoot">
    <property name="time" type="int" optional="true"/>
    <property name="facing" type="int" optional="true"/>
    <property name="pos" type="float tuple" optional="true"/>
  </controller>
  <controller name="BindToTarget">
    <property name="time" type="int" optional="true"/>
    <property name="id" type="int" optional="true"/>
    <property name="pos" type="float float enum" optional="true">
      <value val="foot"/>
      <value val="mid"/>
      <value val="head"/>
    </property>
  </controller>
  <controller name="ChangeAnim">
    <property name="value" type="int" optional="false"/>
    <property name="elem" type="int" optional="true"/>
  </controller>
  <controller name="ChangeAnim2">
    <property name="value" type="int" optional="false"/>
    <property name="elem" type="int" optional="true"/>
  </controller>
  <controller name="ChangeState">
    <property name="value" type="int" optional="false"/>
    <property name="ctrl" type="bool" optional="true"/>
    <property name="anim" type="int" optional="true"/>
  </controller>
  <controller name="ClearClipboard"/>
  <controller name="CtrlSet">
    <property name="value" type="bool" optional="false"/>
  </controller>
  <controller name="DefenceMulSet">
    <property name="value" type="float" optional="false"/>
  </controller>
  <controller name="DestroySelf"/>
  <controller name="DisplayToClipboard">
    <property name="text" type="string" optional="false"/>
    <property name="params" type="string" optional="true"/>
  </controller>
  <controller name="EnvColor">
    <property name="value" type="int triple" optional="true"/>
    <property name="time" type="int" optional="true"/>
    <property name="under" type="bool" optional="true"/>
  </controller>
  <controller name="EnvShake">
    <property name="time" type="int" optional="false"/>
    <property name="freq" type="float" optional="true"/>
    <property name="ampl" type="int" optional="true"/>
    <property name="phase" type="float" optional="true"/>
  </controller>
  <controller name="Explod">
    <property name="anim" type="int" optional="false"/>
    <property name="id" type="int" optional="true"/>
    <property name="pos" type="int tuple" optional="true"/>
    <property name="postype" type="enum" optional="true">
      <value val="p1"/>
      <value val="p2"/>
      <value val="front"/>
      <value val="back"/>
      <value val="left"/>
      <value val="right"/>
    </property>
    <property name="facing" type="int" optional="true"/>
    <property name="vfacing" type="int" optional="true"/>
    <property name="bindtime" type="int" optional="true"/>
    <property name="vel" type="float tuple" optional="true"/>
    <property name="accel" type="float tuple" optional="true"/>
    <property name="random" type="int tuple" optional="true"/>
    <property name="removetime" type="int" optional="true"/>
    <property name="supermove" type="bool" optional="true"/>
    <property name="supermovetime" type="int" optional="true"/>
    <property name="pausemovetime" type="int" optional="true"/>
    <property name="scale" type="float tuple" optional="true"/>
    <property name="sprpriority" type="int" optional="true"/>
    <property name="ontop" type="bool" optional="true"/>
    <property name="shadow" type="int triple" optional="true"/>
    <property name="ownpal" type="bool" optional="true"/>
    <property name="removeongethit" type="bool" optional="true"/>
    <property name="ignorehitpause" type="bool" optional="true"/>
    <property name="trans" type="enum" optional="true">
      <value val="none"/>
      <value val="add"/>
      <value val="add1"/>
      <value val="sub"/>
      <value val="addalpha"/>
      <value val="default"/>
    </property>
  </controller>
  <controller name="ExplodBindTime">
    <property name="id" type="int" optional="true"/>
    <property name="time" type="int" optional="true"/>
  </controller>
  <controller name="FallEnvShake"/>
  <controller name="ForceFeedback">
    <property name="waveform" type="enum" optional="true">
      <value val="sine"/>
      <value val="square"/>
      <value val="sinesquare"/>
      <value val="off"/>
    </property>
    <property name="time" type="int" optional="true"/>
    <property name="freq" type="int" optional="true"/>
    <property name="ampl" type="int" optional="true"/>
    <property name="self" type="bool" optional="true"/>
  </controller>
  <controller name="GameMakeAnim">
    <property name="value" type="int" optional="true"/>
    <property name="under" type="bool" optional="true"/>
    <property name="pos" type="float tuple" optional="true"/>
    <property name="random" type="int" optional="true"/>
  </controller>
  <controller name="Gravity"/>
  <controller name="Helper">
    <property name="helpertype" type="enum" optional="true">
      <value val="normal"/>
      <value val="player"/>
      <value val="proj"/>
    </property>
    <property name="name" type="string" optional="true"/>
    <property name="id" type="int" optional="true"/>
    <property name="pos" type="float tuple" optional="true"/>
    <property name="postype" type="enum" optional="true">
      <value val="p1"/>
      <value val="p2"/>
      <value val="front"/>
      <value val="back"/>
      <value val="left"/>
      <value val="right"/>
    </property>
    <property name="facing" type="int" optional="true"/>
    <property name="stateno" type="int" optional="true"/>
    <property name="keyctrl" type="bool" optional="true"/>
    <property name="ownpal" type="bool" optional="true"/>
    <property name="supermovetime" type="int" optional="true"/>
    <property name="pausemovetime" type="int" optional="true"/>
    <property name="size.xscale" type="float" optional="true"/>
    <property name="size.yscale" type="float" optional="true"/>
    <property name="size.ground.back" type="int" optional="true"/>
    <property name="size.ground.front" type="int" optional="true"/>
    <property name="size.air.back" type="int" optional="true"/>
    <property name="size.air.front" type="int" optional="true"/>
    <property name="size.height" type="int" optional="true"/>
    <property name="size.proj.doscale" type="int" optional="true"/>
    <property name="size.head.pos" type="int tuple" optional="true"/>
    <property name="size.mid.pos" type="int tuple" optional="true"/>
    <property name="size.shadowoffset" type="int" optional="true"/>
  </controller>
  <controller name="HitAdd">
    <property name="value" type="int" optional="false"/>
  </controller>
  <controller name="HitBy">
    <property name="value" type="hitattr" optional="true"/>
    <property name="value2" type="hitattr" optional="true"/>
    <property name="time" type="int" optional="true"/>
  </controller>
  <controller name="HitDef">
    <property name="attr" type="hitattr" optional="false"/>
    <property name="hitflag" type="string" optional="true"/>
    <property name="guardflag" type="string" optional="true"/>
    <property name="affectteam" type="enum" optional="true">
      <value val="E"/>
      <value val="B"/>
      <value val="F"/>
    </property>
    <property name="animtype" type="enum" optional="true">
      <value val="light"/>
      <value val="medium"/>
      <value val="hard"/>
      <value val="back"/>
      <value val="up"/>
      <value val="diagup"/>
    </property>
    <property name="air.animtype" type="enum" optional="true">
      <value val="light"/>
      <value val="medium"/>
      <value val="hard"/>
      <value val="back"/>
      <value val="up"/>
      <value val="diagup"/>
    </property>
    <property name="fall.animtype" type="enum" optional="true">
      <value val="light"/>
      <value val="medium"/>
      <value val="hard"/>
      <value val="back"/>
      <value val="up"/>
      <value val="diagup"/>
    </property>
    <property name="priority" type="int enum" optional="true">
      <value val="hit"/>
      <value val="miss"/>
      <value val="dodge"/>
    </property>
    <property name="damage" type="int tuple" optional="true"/>
    <property name="pausetime" type="int tuple" optional="true"/>
    <property name="guard.pausetime" type="int tuple" optional="true"/>
    <property name="sparkno" type="int" optional="true"/>
    <property name="guard.sparkno" type="int" optional="true"/>
    <property name="sparkxy" type="int tuple" optional="true"/>
    <property name="hitsound" type="int tuple" optional="true"/>
    <property name="guardsound" type="int tuple" optional="true"/>
    <property name="ground.type" type="enum" optional="true">
      <value val="high"/>
      <value val="low"/>
      <value val="trip"/>
      <value val="none"/>
    </property>
    <property name="air.type" type="enum" optional="true">
      <value val="high"/>
      <value val="low"/>
      <value val="trip"/>
      <value val="none"/>
    </property>
    <property name="ground.slidetime" type="int" optional="true"/>
    <property name="guard.slidetime" type="int" optional="true"/>
    <property name="ground.hittime" type="int" optional="true"/>
    <property name="guard.hittime" type="int" optional="true"/>
    <property name="air.hittime" type="int" optional="true"/>
    <property name="guard.ctrltime" type="int" optional="true"/>
    <property name="airguard.ctrltime" type="int" optional="true"/>
    <property name="guard.dist" type="int" optional="true"/>
    <property name="yaccel" type="float" optional="true"/>
    <property name="ground.velocity" type="float tuple" optional="true"/>
    <property name="guard.velocity" type="float" optional="true"/>
    <property name="air.velocity" type="float tuple" optional="true"/>
    <property name="airguard.velocity" type="float tuple" optional="true"/>
    <property name="ground.cornerpush.veloff" type="float" optional="true"/>
    <property name="air.cornerpush.veloff" type="float" optional="true"/>
    <property name="down.cornerpush.veloff" type="float" optional="true"/>
    <property name="guard.cornerpush.veloff" type="float" optional="true"/>
    <property name="airguard.cornerpush.veloff" type="float" optional="true"/>
    <property name="air.juggle" type="int" optional="true"/>
    <property name="mindist" type="int tuple" optional="true"/>
    <property name="maxdist" type="int tuple" optional="true"/>
    <property name="snap" type="int tuple" optional="true"/>
    <property name="p1sprpriority" type="int" optional="true"/>
    <property name="p2sprpriority" type="int" optional="true"/>
    <property name="p1facing" type="int" optional="true"/>
    <property name="p1getp2facing" type="int" optional="true"/>
    <property name="p2facing" type="int" optional="true"/>
    <property name="p1stateno" type="int" optional="true"/>
    <property name="p2stateno" type="int" optional="true"/>
    <property name="p2getp1state" type="bool" optional="true"/>
    <property name="forcestand" type="bool" optional="true"/>
    <property name="fall" type="bool" optional="true"/>
    <property name="fall.xvelocity" type="float" optional="true"/>
    <property name="fall.yvelocity" type="float" optional="true"/>
    <property name="fall.recover" type="bool" optional="true"/>
    <property name="fall.recovertime" type="int" optional="true"/>
    <property name="fall.damage" type="int" optional="true"/>
    <property name="air.fall" type="bool" optional="true"/>
    <property name="forcenofall" type="bool" optional="true"/>
    <property name="down.velocity" type="float tuple" optional="true"/>
    <property name="down.hittime" type="int" optional="true"/>
    <property name="down.bounce" type="bool" optional="true"/>
    <property name="id" type="int" optional="true"/>
    <property name="chainid" type="int" optional="true"/>
    <property name="nochainid" type="int tuple" optional="true"/>
    <property name="hitonce" type="bool" optional="true"/>
    <property name="kill" type="bool" optional="true"/>
    <property name="guard.kill" type="bool" optional="true"/>
    <property name="fall.kill" type="bool" optional="true"/>
    <property name="numhits" type="int" optional="true"/>
    <property name="getpower" type="int tuple" optional="true"/>
    <property name="givepower" type="int tuple" optional="true"/>
    <property name="palfx.time" type="int" optional="true"/>
    <property name="palfx.mul" type="int triple" optional="true"/>
    <property name="palfx.add" type="int triple" optional="true"/>
    <property name="envshake.time" type="int" optional="true"/>
    <property name="envshake.freq" type="float" optional="true"/>
    <property name="envshake.ampl" type="int" optional="true"/>
    <property name="envshake.phase" type="float" optional="true"/>
    <property name="fall.envshake.time" type="int" optional="true"/>
    <property name="fall.envshake.freq" type="float" optional="true"/>
    <property name="fall.envshake.ampl" type="int" optional="true"/>
    <property name="fall.envshake.phase" type="float" optional="true"/>
  </controller>
  <controller name="HitFallDamage"/>
  <controller name="HitFallSet">
    <property name="value" type="int" optional="true"/>
    <property name="xvel" type="float" optional="true"/>
    <property name="yvel" type="float" optional="true"/>
  </controller>
  <controller name="HitFallVel"/>
  <controller name="HitOverride">
    <property name="attr" type="hitattr" optional="false"/>
    <property name="stateno" type="int" optional="false"/>
    <property name="slot" type="int" optional="true"/>
    <property name="time" type="int" optional="true"/>
    <property name="forceair" type="bool" optional="true"/>
  </controller>
  <controller name="HitVelSet">
    <property name="x" type="bool" optional="true"/>
    <property name="y" type="bool" optional="true"/>
  </controller>
  <controller name="LifeAdd">
    <property name="value" type="int" optional="false"/>
    <property name="kill" type="bool" optional="true"/>
    <property name="absolute" type="bool" optional="true"/>
  </controller>
  <controller name="LifeSet">
    <property name="value" type="int" optional="false"/>
  </controller>
  <controller name="MakeDust">
    <property name="pos" type="int tuple" optional="true"/>
    <property name="pos2" type="int tuple" optional="true"/>
    <property name="spacing" type="int" optional="true"/>
  </controller>
  <controller name="ModifyExplod">
    <property name="id" type="int" optional="true"/>
    <property name="pos" type="int tuple" optional="true"/>
    <property name="postype" type="enum" optional="true">
      <value val="p1"/>
      <value val="p2"/>
      <value val="front"/>
      <value val="back"/>
      <value val="left"/>
      <value val="right"/>
    </property>
    <property name="facing" type="int" optional="true"/>
    <property name="vfacing" type="int" optional="true"/>
    <property name="bindtime" type="int" optional="true"/>
    <property name="vel" type="float tuple" optional="true"/>
    <property name="accel" type="float tuple" optional="true"/>
    <property name="random" type="int tuple" optional="true"/>
    <property name="removetime" type="int" optional="true"/>
    <property name="supermove" type="bool" optional="true"/>
    <property name="supermovetime" type="int" optional="true"/>
    <property name="pausemovetime" type="int" optional="true"/>
    <property name="scale" type="float tuple" optional="true"/>
    <property name="sprpriority" type="int" optional="true"/>
    <property name="ontop" type="bool" optional="true"/>
    <property name="shadow" type="int triple" optional="true"/>
    <property name="ownpal" type="bool" optional="true"/>
    <property name="removeongethit" type="bool" optional="true"/>
    <property name="ignorehitpause" type="bool" optional="true"/>
    <property name="trans" type="enum" optional="true">
      <value val="none"/>
      <value val="add"/>
      <value val="add1"/>
      <value val="sub"/>
      <value val="addalpha"/>
      <value val="default"/>
    </property>
    <property name="anim" type="int" optional="true"/>
  </controller>
  <controller name="MoveHitReset"/>
  <controller name="NotHitBy">
    <property name="value" type="hitattr" optional="true"/>
    <property name="value2" type="hitattr" optional="true"/>
    <property name="time" type="int" optional="true"/>
  </controller>
  <controller name="Null"/>
  <controller name="Offset">
    <property name="x" type="float" optional="true"/>
    <property name="y" type="float" optional="true"/>
  </controller>
  <controller name="PalFX">
    <property name="time" type="int" optional="true"/>
    <property name="add" type="int triple" optional="true"/>
    <property name="mul" type="int triple" optional="true"/>
    <property name="sinadd" type="int triple" optional="true"/>
    <property name="invertall" type="bool" optional="true"/>
    <property name="color" type="int" optional="true"/>
  </controller>
  <controller name="ParentVarAdd">
    <property name="v" type="int" optional="true"/>
    <property name="fv" type="int" optional="true"/>
    <property name="sysvar" type="int" optional="true"/>
    <property name="sysfvar" type="int" optional="true"/>
    <property name="value" type="float" optional="true"/>
  </controller>
  <controller name="ParentVarSet">
    <property name="v" type="int" optional="true"/>
    <property name="fv" type="int" optional="true"/>
    <property name="sysvar" type="int" optional="true"/>
    <property name="sysfvar" type="int" optional="true"/>
    <property name="value" type="float" optional="true"/>
  </controller>
  <controller name="Pause">
    <property name="time" type="int" optional="false"/>
    <property name="endcmdbuftime" type="int" optional="true"/>
    <property name="movetime" type="int" optional="true"/>
    <property name="pausebg" type="bool" optional="true"/>
  </controller>
  <controller name="PlayerPush">
    <property name="value" type="bool" optional="false"/>
  </controller>
  <controller name="PlaySnd">
    <property name="value" type="string int" optional="false"/>
    <property name="volume" type="int" optional="true"/>
    <property name="channel" type="int" optional="true"/>
    <property name="lowpriority" type="bool" optional="true"/>
    <property name="freqmul" type="float" optional="true"/>
    <property name="loop" type="bool" optional="true"/>
    <property name="pan" type="int" optional="true"/>
    <property name="abspan" type="int" optional="true"/>
  </controller>
  <controller name="PosAdd">
    <property name="x" type="float" optional="true"/>
    <property name="y" type="float" optional="true"/>
  </controller>
  <controller name="PosFreeze">
    <property name="value" type="bool" optional="true"/>
  </controller>
  <controller name="PosSet">
    <property name="x" type="float" optional="true"/>
    <property name="y" type="float" optional="true"/>
  </controller>
  <controller name="PowerAdd">
    <property name="value" type="int" optional="false"/>
  </controller>
  <controller name="PowerSet">
    <property name="value" type="int" optional="false"/>
  </controller>
  <controller name="Projectile">
    <property name="attr" type="hitattr" optional="false"/>
    <property name="hitflag" type="string" optional="true"/>
    <property name="guardflag" type="string" optional="true"/>
    <property name="affectteam" type="enum" optional="true">
      <value val="E"/>
      <value val="B"/>
      <value val="F"/>
    </property>
    <property name="animtype" type="enum" optional="true">
      <value val="light"/>
      <value val="medium"/>
      <value val="hard"/>
      <value val="back"/>
      <value val="up"/>
      <value val="diagup"/>
    </property>
    <property name="air.animtype" type="enum" optional="true">
      <value val="light"/>
      <value val="medium"/>
      <value val="hard"/>
      <value val="back"/>
      <value val="up"/>
      <value val="diagup"/>
    </property>
    <property name="fall.animtype" type="enum" optional="true">
      <value val="light"/>
      <value val="medium"/>
      <value val="hard"/>
      <value val="back"/>
      <value val="up"/>
      <value val="diagup"/>
    </property>
    <property name="priority" type="int enum" optional="true">
      <value val="hit"/>
      <value val="miss"/>
      <value val="dodge"/>
    </property>
    <property name="damage" type="int tuple" optional="true"/>
    <property name="pausetime" type="int tuple" optional="true"/>
    <property name="guard.pausetime" type="int tuple" optional="true"/>
    <property name="sparkno" type="int" optional="true"/>
    <property name="guard.sparkno" type="int" optional="true"/>
    <property name="sparkxy" type="int tuple" optional="true"/>
    <property name="hitsound" type="int tuple" optional="true"/>
    <property name="guardsound" type="int tuple" optional="true"/>
    <property name="ground.type" type="enum" optional="true">
      <value val="high"/>
      <value val="low"/>
      <value val="trip"/>
      <value val="none"/>
    </property>
    <property name="air.type" type="enum" optional="true">
      <value val="high"/>
      <value val="low"/>
      <value val="trip"/>
      <value val="none"/>
    </property>
    <property name="ground.slidetime" type="int" optional="true"/>
    <property name="guard.slidetime" type="int" optional="true"/>
    <property name="ground.hittime" type="int" optional="true"/>
    <property name="guard.hittime" type="int" optional="true"/>
    <property name="air.hittime" type="int" optional="true"/>
    <property name="guard.ctrltime" type="int" optional="true"/>
    <property name="airguard.ctrltime" type="int" optional="true"/>
    <property name="guard.dist" type="int" optional="true"/>
    <property name="yaccel" type="float" optional="true"/>
    <property name="ground.velocity" type="float tuple" optional="true"/>
    <property name="guard.velocity" type="float" optional="true"/>
    <property name="air.velocity" type="float tuple" optional="true"/>
    <property name="airguard.velocity" type="float tuple" optional="true"/>
    <property name="ground.cornerpush.veloff" type="float" optional="true"/>
    <property name="air.cornerpush.veloff" type="float" optional="true"/>
    <property name="down.cornerpush.veloff" type="float" optional="true"/>
    <property name="guard.cornerpush.veloff" type="float" optional="true"/>
    <property name="airguard.cornerpush.veloff" type="float" optional="true"/>
    <property name="air.juggle" type="int" optional="true"/>
    <property name="mindist" type="int tuple" optional="true"/>
    <property name="maxdist" type="int tuple" optional="true"/>
    <property name="snap" type="int tuple" optional="true"/>
    <property name="p1sprpriority" type="int" optional="true"/>
    <property name="p2sprpriority" type="int" optional="true"/>
    <property name="p1facing" type="int" optional="true"/>
    <property name="p1getp2facing" type="int" optional="true"/>
    <property name="p2facing" type="int" optional="true"/>
    <property name="p1stateno" type="int" optional="true"/>
    <property name="p2stateno" type="int" optional="true"/>
    <property name="p2getp1state" type="bool" optional="true"/>
    <property name="forcestand" type="bool" optional="true"/>
    <property name="fall" type="bool" optional="true"/>
    <property name="fall.xvelocity" type="float" optional="true"/>
    <property name="fall.yvelocity" type="float" optional="true"/>
    <property name="fall.recover" type="bool" optional="true"/>
    <property name="fall.recovertime" type="int" optional="true"/>
    <property name="fall.damage" type="int" optional="true"/>
    <property name="air.fall" type="bool" optional="true"/>
    <property name="forcenofall" type="bool" optional="true"/>
    <property name="down.velocity" type="float tuple" optional="true"/>
    <property name="down.hittime" type="int" optional="true"/>
    <property name="down.bounce" type="bool" optional="true"/>
    <property name="id" type="int" optional="true"/>
    <property name="chainid" type="int" optional="true"/>
    <property name="nochainid" type="int tuple" optional="true"/>
    <property name="hitonce" type="bool" optional="true"/>
    <property name="kill" type="bool" optional="true"/>
    <property name="guard.kill" type="bool" optional="true"/>
    <property name="fall.kill" type="bool" optional="true"/>
    <property name="numhits" type="int" optional="true"/>
    <property name="getpower" type="int tuple" optional="true"/>
    <property name="givepower" type="int tuple" optional="true"/>
    <property name="palfx.time" type="int" optional="true"/>
    <property name="palfx.mul" type="int triple" optional="true"/>
    <property name="palfx.add" type="int triple" optional="true"/>
    <property name="envshake.time" type="int" optional="true"/>
    <property name="envshake.freq" type="float" optional="true"/>
    <property name="envshake.ampl" type="int" optional="true"/>
    <property name="envshake.phase" type="float" optional="true"/>
    <property name="fall.envshake.time" type="int" optional="true"/>
    <property name="fall.envshake.freq" type="float" optional="true"/>
    <property name="fall.envshake.ampl" type="int" optional="true"/>
    <property name="fall.envshake.phase" type="float" optional="true"/>
    <property name="projid" type="int" optional="true"/>
    <property name="projanim" type="int" optional="true"/>
    <property name="projhitanim" type="int" optional="true"/>
    <property name="projremanim" type="int" optional="true"/>
    <property name="projcancelanim" type="int" optional="true"/>
    <property name="projscale" type="float tuple" optional="true"/>
    <property name="projremove" type="bool" optional="true"/>
    <property name="projremovetime" type="int" optional="true"/>
    <property name="velocity" type="float tuple" optional="true"/>
    <property name="remvelocity" type="float tuple" optional="true"/>
    <property name="accel" type="float tuple" optional="true"/>
    <property name="velmul" type="float tuple" optional="true"/>
    <property name="projhits" type="int" optional="true"/>
    <property name="projmisstime" type="int" optional="true"/>
    <property name="projpriority" type="int" optional="true"/>
    <property name="projsprpriority" type="int" optional="true"/>
    <property name="projedgebound" type="int" optional="true"/>
    <property name="projstagebound" type="int" optional="true"/>
    <property name="projheightbound" type="int tuple" optional="true"/>
    <property name="offset" type="int tuple" optional="true"/>
    <property name="postype" type="enum" optional="true">
      <value val="p1"/>
      <value val="p2"/>
      <value val="front"/>
      <value val="back"/>
      <value val="left"/>
      <value val="right"/>
    </property>
    <property name="projshadow" type="int triple" optional="true"/>
    <property name="supermovetime" type="int" optional="true"/>
    <property name="pausemovetime" type="int" optional="true"/>
    <property name="afterimage.time" type="int" optional="true"/>
    <property name="afterimage.length" type="int" optional="true"/>
  </controller>
  <controller name="RemapPal">
    <property name="source" type="int tuple" optional="false"/>
    <property name="dest" type="int tuple" optional="false"/>
  </controller>
  <controller name="RemoveExplod">
    <property name="id" type="int" optional="true"/>
  </controller>
  <controller name="ReversalDef">
    <property name="reversal.attr" type="hitattr" optional="false"/>
    <property name="pausetime" type="int tuple" optional="true"/>
    <property name="sparkno" type="int" optional="true"/>
    <property name="hitsound" type="int tuple" optional="true"/>
    <property name="p1stateno" type="int" optional="true"/>
    <property name="p2stateno" type="int" optional="true"/>
    <property name="p1sprpriority" type="int" optional="true"/>
    <property name="p2sprpriority" type="int" optional="true"/>
    <property name="sparkxy" type="int tuple" optional="true"/>
  </controller>
  <controller name="ScreenBound">
    <property name="value" type="bool" optional="true"/>
    <property name="movecamera" type="bool tuple" optional="true"/>
  </controller>
  <controller name="SelfState">
    <property name="value" type="int" optional="false"/>
    <property name="ctrl" type="bool" optional="true"/>
    <property name="anim" type="int" optional="true"/>
  </controller>
  <controller name="SndPan">
    <property name="channel" type="int" optional="false"/>
    <property name="pan" type="int" optional="true"/>
    <property name="abspan" type="int" optional="true"/>
  </controller>
  <controller name="SprPriority">
    <property name="value" type="int" optional="true"/>
  </controller>
  <controller name="StateTypeSet">
    <property name="statetype" type="enum" optional="true">
      <value val="S"/>
      <value val="C"/>
      <value val="A"/>
      <value val="L"/>
    </property>
    <property name="movetype" type="enum" optional="true">
      <value val="I"/>
      <value val="A"/>
      <value val="H"/>
    </property>
    <property name="physics" type="enum" optional="true">
      <value val="S"/>
      <value val="C"/>
      <value val="A"/>
      <value val="N"/>
    </property>
  </controller>
  <controller name="StopSnd">
    <property name="channel" type="int" optional="false"/>
  </controller>
  <controller name="SuperPause">
    <property name="time" type="int" optional="true"/>
    <property name="anim" type="int" optional="true"/>
    <property name="sound" type="string int" optional="true"/>
    <property name="pos" type="float tuple" optional="true"/>
    <property name="darken" type="bool" optional="true"/>
    <property name="p2defmul" type="float" optional="true"/>
    <property name="poweradd" type="int" optional="true"/>
    <property name="unhittable" type="bool" optional="true"/>
    <property name="movetime" type="int" optional="true"/>
    <property name="pausebg" type="bool" optional="true"/>
    <property name="endcmdbuftime" type="int" optional="true"/>
  </controller>
  <controller name="TargetBind">
    <property name="id" type="int" optional="true"/>
    <property name="time" type="int" optional="true"/>
    <property name="pos" type="float tuple" optional="true"/>
  </controller>
  <controller name="TargetDrop">
    <property name="excludeid" type="int" optional="true"/>
    <property name="keepone" type="bool" optional="true"/>
  </controller>
  <controller name="TargetFacing">
    <property name="id" type="int" optional="true"/>
    <property name="value" type="int" optional="false"/>
  </controller>
  <controller name="TargetLifeAdd">
    <property name="id" type="int" optional="true"/>
    <property name="value" type="int" optional="false"/>
    <property name="kill" type="bool" optional="true"/>
    <property name="absolute" type="bool" optional="true"/>
  </controller>
  <controller name="TargetPowerAdd">
    <property name="id" type="int" optional="true"/>
    <property name="value" type="int" optional="false"/>
  </controller>
  <controller name="TargetState">
    <property name="id" type="int" optional="true"/>
    <property name="value" type="int" optional="false"/>
  </controller>
  <controller name="TargetVelAdd">
    <property name="id" type="int" optional="true"/>
    <property name="x" type="float" optional="true"/>
    <property name="y" type="float" optional="true"/>
  </controller>
  <controller name="TargetVelSet">
    <property name="id" type="int" optional="true"/>
    <property name="x" type="float" optional="true"/>
    <property name="y" type="float" optional="true"/>
  </controller>
  <controller name="Trans">
    <property name="trans" type="enum" optional="false">
      <value val="none"/>
      <value val="add"/>
      <value val="add1"/>
      <value val="sub"/>
      <value val="addalpha"/>
      <value val="default"/>
    </property>
    <property name="alpha" type="int tuple" optional="true"/>
  </controller>
  <controller name="Turn"/>
  <controller name="VarAdd">
    <property name="v" type="int" optional="true"/>
    <property name="fv" type="int" optional="true"/>
    <property name="sysvar" type="int" optional="true"/>
    <property name="sysfvar" type="int" optional="true"/>
    <property name="value" type="float" optional="true"/>
  </controller>
  <controller name="VarRandom">
    <property name="v" type="int" optional="false"/>
    <property name="range" type="int tuple" optional="true"/>
  </controller>
  <controller name="VarRangeSet">
    <property name="value" type="int" optional="true"/>
    <property name="fvalue" type="float" optional="true"/>
    <property name="first" type="int" optional="true"/>
    <property name="last" type="int" optional="true"/>
  </controller>
  <controller name="VarSet">
    <property name="v" type="int" optional="true"/>
    <property name="fv" type="int" optional="true"/>
    <property name="sysvar" type="int" optional="true"/>
    <property name="sysfvar" type="int" optional="true"/>
    <property name="value" type="float" optional="true"/>
  </controller>
  <controller name="VelAdd">
    <property name="x" type="float" optional="true"/>
    <property name="y" type="float" optional="true"/>
  </controller>
  <controller name="VelMul">
    <property name="x" type="float" optional="true"/>
    <property name="y" type="float" optional="true"/>
  </controller>
  <controller name="VelSet">
    <property name="x" type="float" optional="true"/>
    <property name="y" type="float" optional="true"/>
  </controller>
  <controller name="VictoryQuote">
    <property name="value" type="int" optional="true"/>
  </controller>
  <controller name="Width">
    <property name="edge" type="int tuple" optional="true"/>
    <property name="player" type="int tuple" optional="true"/>
    <property name="value" type="int tuple" optional="true"/>
  </controller>
</controllers>
"#

end FighterCheck.Resources
