import Mathlib.Data.UInt

/-!
The names of thing.bin and the numbers they stand for (`NoxEnumNamePair`, `NoxThinglib.cpp`).
-/

namespace NoxServer.Things

def chars (text : String) : List UInt8 := text.toList.map fun c => UInt8.ofNat c.toNat

structure NoxEnumNamePair where
  enum : UInt32
  name : List UInt8

/-- A table, without the pair at its end whose name is NULL. -/
def named (pairs : List (UInt32 × String)) : List NoxEnumNamePair :=
  pairs.map fun (enum, name) => ⟨enum, chars name⟩

def noxClassNames : List NoxEnumNamePair := named
    [(0x80000000, "MISSILE"), (0x00000001, "MONSTER"), (0x00000002, "PLAYER"),
    (0x00000004, "OBSTACLE"), (0x00000008, "FOOD"), (0x00000010, "EXIT"), (0x00000020, "KEY"),
    (0x00000040, "DOOR"), (0x00000080, "INFO_BOOK"), (0x00000100, "TRIGGER"),
    (0x00000200, "TRANSPORTER"), (0x00000400, "HOLE"), (0x00000800, "WAND"), (0x00001000, "FIRE"),
    (0x00002000, "ELEVATOR"), (0x00004000, "ELEVATOR_SHAFT"), (0x00008000, "DANGEROUS"),
    (0x00010000, "MONSTERGENERATOR"), (0x00020000, "READABLE"), (0x00040000, "LIGHT"),
    (0x00080000, "SIMPLE"), (0x00100000, "COMPLEX"), (0x00200000, "IMMOBILE"),
    (0x00400000, "ENABLE"), (0x00800000, "WEAPON"), (0x01000000, "ARMOR"),
    (0x02000000, "NOT_STACKABLE"), (0x04000000, "TREASURE"), (0x08000000, "FLAG"),
    (0x10000000, "CLIENT_PERSIST"), (0x20000000, "CLIENT_PREDICT"), (0x40000000, "PICKUP")]

def noxSubclassNames : List NoxEnumNamePair := named
    [(0x00, "HELMET"), (0x08, "SHIELD"), (0x01, "BREASTPLATE"), (0x02, "ARM_ARMOR"),
    (0x03, "PANTS"), (0x04, "BOOTS"), (0x05, "SHIRT"), (0x06, "LEG_ARMOR"), (0x07, "BACK"),
    (0x20, "FLAG"), (0x21, "QUIVER"), (0x22, "BOW"), (0x23, "CROSSBOW"), (0x24, "ARROW"),
    (0x25, "BOLT"), (0x26, "CHAKRAM"), (0x27, "SHURIKEN"), (0x28, "SWORD"), (0x29, "LONG_SWORD"),
    (0x2A, "GREAT_SWORD"), (0x2B, "MACE"), (0x2C, "AXE"), (0x2D, "OGRE_AXE"), (0x2E, "HAMMER"),
    (0x2F, "STAFF"), (0x30, "STAFF_SULPHOROUS_FLARE"), (0x31, "STAFF_SULPHOROUS_SHOWER"),
    (0x32, "STAFF_LIGHTNING"), (0x33, "STAFF_FIREBALL"), (0x34, "STAFF_TRIPLE_FIREBALL"),
    (0x35, "STAFF_FORCE_OF_NATURE"), (0x36, "STAFF_DEATH_RAY"), (0x37, "STAFF_OBLIVION_HALBERD"),
    (0x38, "STAFF_OBLIVION_HEART"), (0x39, "STAFF_OBLIVION_WIERDLING"),
    (0x3A, "STAFF_OBLIVION_ORB"), (0x3A, "STAFF_OBLIVION_ORB"), (0x3B, "SMALL_MONSTER"),
    (0x3C, "MEDIUM_MONSTER"), (0x3D, "LARGE_MONSTER"), (0x3E, "SHOPKEEPER"), (0x3F, "NPC"),
    (0x40, "FEMALE_NPC"), (0x41, "UNDEAD"), (0x42, "MONITOR"), (0x43, "MIGRATE"),
    (0x44, "IMMUNE_POISON"), (0x45, "IMMUNE_FIRE"), (0x46, "IMMUNE_ELECTRICITY"),
    (0x47, "IMMUNE_FEAR"), (0x48, "BOMBER"), (0x49, "NO_TARGET"), (0x4A, "NO_SPELL_TARGET"),
    (0x4B, "HAS_SOUL"), (0x4C, "WARCRY_STUN"), (0x4D, "LOOK_AROUND"), (0x4E, "WOUNDED_NPC"),
    (0x4F, "SIMPLE"), (0x50, "APPLE"), (0x51, "JUG"), (0x52, "POTION"), (0x53, "HEALTH_POTION"),
    (0x54, "MANA_POTION"), (0x55, "CURE_POISON_POTION"), (0x56, "MUSHROOM"), (0x57, "HASTE_POTION"),
    (0x58, "INVISIBILITY_POTION"), (0x59, "SHIELD_POTION"), (0x5A, "FIRE_PROTECT_POTION"),
    (0x5B, "SHOCK_PROTECT_POTION"), (0x5C, "POISON_PROTECT_POTION"),
    (0x5D, "INVULNERABILITY_POTION"), (0x5E, "INFRAVISION_POTION"), (0x5F, "VAMPIRISM_POTION"),
    (0x60, "HEAVY"), (0x61, "LAVA"), (0x62, "GATE"), (0x63, "VISIBLE_OBELISK"),
    (0x64, "INVISIBLE_OBELISK"), (0x65, "TECH"), (0x66, "LOTD"), (0x67, "USEABLE"),
    (0x68, "CHEST_NW"), (0x69, "CHEST_NE"), (0x6A, "CHEST_SE"), (0x6B, "CHEST_SW"),
    (0x6C, "STONE_DOOR"), (0x6D, "SPELL_BOOK"), (0x6E, "FIELD_GUIDE"), (0x6F, "ABILITY_BOOK"),
    (0x70, "MISSILE_COUNTERSPELL"), (0x71, "MAGIC"), (0x72, "GENERATOR_NW"), (0x73, "GENERATOR_NE"),
    (0x74, "GENERATOR_SE"), (0x75, "GENERATOR_SW"), (0x76, "QUEST_EXIT"), (0x77, "QUEST_WARP_EXIT")]

def noxFlagNames : List NoxEnumNamePair := named
    [(0x00000001, "BELOW"), (0x00000002, "NO_UPDATE"), (0x00000004, "ACTIVE"),
    (0x00000008, "ALLOW_OVERLAP"), (0x00000010, "SHORT"), (0x00000020, "DESTROYED"),
    (0x00000040, "NO_COLLIDE"), (0x00000080, "MISSILE_HIT"), (0x00000100, "EQUIPPED"),
    (0x00000200, "PARTITIONED"), (0x00000400, "NO_COLLIDE_OWNER"), (0x00000800, "OWNER_VISIBLE"),
    (0x00001000, "EDIT_VISIBLE"), (0x00002000, "NO_PUSH_CHARACTERS"), (0x00004000, "AIRBORNE"),
    (0x00008000, "DEAD"), (0x00010000, "SHADOW"), (0x00020000, "FALLING"), (0x00040000, "IN_HOLE"),
    (0x00080000, "RESPAWN"), (0x00100000, "ON_OBJECT"), (0x00200000, "SIGHT_DESTROY"),
    (0x00400000, "TRANSIENT"), (0x00800000, "BOUNCY"), (0x01000000, "ENABLED"),
    (0x02000000, "PENDING"), (0x04000000, "TRANSLUCENT"), (0x08000000, "STILL"),
    (0x10000000, "DROP_AUTO_DROP"), (0x20000000, "FLICKER"), (0x40000000, "SELECTED"),
    (0x80000000, "MARKED")]

def noxCollideNames : List NoxEnumNamePair := named
    [(0, "NoCollide"), (1, "DefaultCollide"), (2, "MonsterCollide"), (3, "PlayerCollide"),
    (4, "ProjectileCollide"), (5, "ProjectileSparkCollide"), (6, "DoorCollide"),
    (7, "PickupCollide"), (8, "ExitCollide"), (9, "DamageCollide"), (10, "ManaDrainCollide"),
    (11, "BombCollide"), (12, "SparkExplosionCollide"), (13, "ChestCollide"),
    (14, "WallReflectCollide"), (15, "WallReflectSparkCollide"), (16, "PixieCollide"),
    (17, "OwnCollide"), (18, "SparkCollide"), (19, "BarrelCollide"), (20, "AudioEventCollide"),
    (21, "TriggerCollide"), (22, "TeleportCollide"), (23, "ElevatorCollide"),
    (24, "AwardSpellCollide"), (25, "DieCollide"), (26, "GlyphCollide"),
    (27, "SpellProjectileCollide"), (28, "BoomCollide"), (29, "SignCollide"),
    (30, "PentagramCollide"), (31, "SpiderSpitCollide"), (32, "DeathBallCollide"),
    (33, "DeathBallFragmentCollide"), (34, "TelekinesisCollide"), (35, "FistCollide"),
    (36, "TeleportWakeCollide"), (37, "FlagCollide"), (38, "ChakramInMotionCollide"),
    (39, "ArrowCollide"), (40, "MonsterArrowCollide"), (41, "BearTrapCollide"),
    (42, "PoisonGasTrapCollide"), (43, "TrapDoorCollide"), (44, "BallCollide"),
    (45, "HomeBaseCollide"), (46, "CrownCollide"), (47, "UndeadKillerCollide"),
    (48, "YellowStarShotCollide"), (49, "MimicCollide"), (50, "HarpoonCollide"),
    (51, "MonsterGeneratorCollide"), (52, "SoulGateCollide"), (53, "AnkhCollide")]

def noxPickupNames : List NoxEnumNamePair := named
    [(0, "DefaultPickup"), (1, "FoodPickup"), (2, "UsePickup"), (3, "ArmorPickup"),
    (4, "WeaponPickup"), (5, "OblivionPickup"), (6, "TreasurePickup"), (7, "TrapPickup"),
    (8, "PotionPickup"), (9, "GoldPickup"), (10, "AmmoPickup"), (11, "SpellBookPickup"),
    (12, "AbilityBookPickup"), (13, "CrownPickup"), (14, "AudEventPickup"),
    (15, "AnkhTradablePickup")]

def noxUpdateNames : List NoxEnumNamePair := named
    [(0, "NoUpdate"), (1, "PlayerUpdate"), (2, "ProjectileUpdate"), (3, "HomingProjectileUpdate"),
    (4, "SpellProjectileUpdate"), (5, "AntiSpellProjectilUpdate"), (6, "DoorUpdate"),
    (7, "SparkUpdate"), (8, "ProjectileTrailUpdate"), (9, "PushUpdate"), (10, "TriggerUpdate"),
    (11, "ToggleUpdate"), (12, "MonsterUpdate"), (13, "LoopAndDamageUpdate"),
    (14, "ElevatorUpdate"), (15, "ElevatorShaftUpdate"), (16, "PhantomPlayerUpdate"),
    (17, "ObeliskUpdate"), (18, "LifetimeUpdate"), (19, "MagicMissileUpdate"), (20, "PixieUpdate"),
    (21, "SpikeBlockUpdate"), (22, "TowerUpdate"), (23, "SkullUpdate"), (24, "PentagramUpdate"),
    (25, "InvisiblePentagramUpdate"), (26, "SwitchUpdate"), (27, "BlowUpdate"), (28, "MoverUpdate"),
    (29, "BlackPowderBarrelUpdate"), (30, "OneSecondDieUpdate"), (31, "WaterBarrelUpdate"),
    (32, "SelfDestructUpdate"), (33, "BlackPowderBurnUpdate"), (34, "DeathBallUpdate"),
    (35, "DeathBallFragmentUpdate"), (36, "MoonglowUpdate"), (37, "SentryGlobeUpdate"),
    (38, "TelekinesisUpdate"), (39, "FistUpdate"), (40, "MeteorShowerUpdate"), (41, "MeteorUpdate"),
    (42, "ToxicCloudUpdate"), (43, "SmallToxicCloudUpdate"), (44, "ArachnaphobiaUpdate"),
    (45, "ExpireUpdate"), (46, "BreakUpdate"), (47, "OpenUpdate"), (48, "BreakAndRemoveUpdate"),
    (49, "ChakramInMotionUpdate"), (50, "FlagUpdate"), (51, "TrapDoorUpdate"), (52, "BallUpdate"),
    (53, "CrownUpdate"), (54, "UndeadKillerUpdate"), (55, "HarpoonUpdate"),
    (56, "WeaponArmorUpdate"), (57, "MonsterGeneratorUpdate")]

def noxUseNames : List NoxEnumNamePair := named
    [(0, "ConsumeUse"), (1, "ConsumeConfuseUse"), (2, "FireWandUse"), (3, "CaseUse"),
    (4, "EnchantUse"), (5, "MushroomUse"), (6, "ReadUse"), (7, "WarpReadUse"), (8, "WandUse"),
    (9, "WandCastUse"), (10, "SpellRewardUse"), (11, "AbilityRewardUse"), (12, "FieldGuideUse"),
    (13, "PotionUse"), (14, "AmmoUse"), (15, "BowUse")]

/-- `noxNameToEnum`: the pair at the end of every table has the number 0. -/
def noxNameToEnum (name : List UInt8) : List NoxEnumNamePair → UInt32
  | [] => 0
  | pair :: table => if name = pair.name then pair.enum else noxNameToEnum name table

end NoxServer.Things
