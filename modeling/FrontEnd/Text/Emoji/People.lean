/-!
# Names of people

Signs that come in several skin tones, with their names: hands, and people at what they do. Each
line has the code points of a sign without a tone, and its names.
-/

namespace FrontEnd.Text.Emoji

/-- People and their names. -/
def peopleLines : String := "
  261D index_pointing_up
  26F9 person_bouncing_ball
  26F9+FE0F+200D+2640+FE0F woman_bouncing_ball
  26F9+FE0F+200D+2642+FE0F man_bouncing_ball
  270A raised_fist
  270B raised_hand
  270C victory_hand
  270D writing_hand
  1F385 santa_claus
  1F3C2 snowboarder
  1F3C3 person_running
  1F3C3+200D+2640+FE0F woman_running
  1F3C3+200D+2642+FE0F man_running
  1F3C4 person_surfing
  1F3C4+200D+2640+FE0F woman_surfing
  1F3C4+200D+2642+FE0F man_surfing
  1F3C7 horse_racing
  1F3CA person_swimming
  1F3CA+200D+2640+FE0F woman_swimming
  1F3CA+200D+2642+FE0F man_swimming
  1F3CB person_lifting_weights
  1F3CB+FE0F+200D+2640+FE0F woman_lifting_weights
  1F3CB+FE0F+200D+2642+FE0F man_lifting_weights
  1F3CC person_golfing
  1F3CC+FE0F+200D+2640+FE0F woman_golfing
  1F3CC+FE0F+200D+2642+FE0F man_golfing
  1F442 ear
  1F443 nose
  1F446 backhand_index_pointing_up
  1F447 backhand_index_pointing_down
  1F448 backhand_index_pointing_left
  1F449 backhand_index_pointing_right
  1F44A oncoming_fist
  1F44B waving_hand
  1F44C ok_hand
  1F44D thumbs_up
  1F44E thumbs_down
  1F44F clapping_hands
  1F450 open_hands
  1F466 boy
  1F467 girl
  1F468 man
  1F468+200D+2695+FE0F man_health_worker
  1F468+200D+2696+FE0F man_judge
  1F468+200D+2708+FE0F man_pilot
  1F468+200D+1F33E man_farmer
  1F468+200D+1F373 man_cook
  1F468+200D+1F393 man_student
  1F468+200D+1F3A4 man_singer
  1F468+200D+1F3A8 man_artist
  1F468+200D+1F3EB man_teacher
  1F468+200D+1F3ED man_factory_worker
  1F468+200D+1F4BB man_technologist
  1F468+200D+1F4BC man_office_worker
  1F468+200D+1F527 man_mechanic
  1F468+200D+1F52C man_scientist
  1F468+200D+1F680 man_astronaut
  1F468+200D+1F692 man_firefighter
  1F469 woman
  1F469+200D+2695+FE0F woman_health_worker
  1F469+200D+2696+FE0F woman_judge
  1F469+200D+2708+FE0F woman_pilot
  1F469+200D+1F33E woman_farmer
  1F469+200D+1F373 woman_cook
  1F469+200D+1F393 woman_student
  1F469+200D+1F3A4 woman_singer
  1F469+200D+1F3A8 woman_artist
  1F469+200D+1F3EB woman_teacher
  1F469+200D+1F3ED woman_factory_worker
  1F469+200D+1F4BB woman_technologist
  1F469+200D+1F4BC woman_office_worker
  1F469+200D+1F527 woman_mechanic
  1F469+200D+1F52C woman_scientist
  1F469+200D+1F680 woman_astronaut
  1F469+200D+1F692 woman_firefighter
  1F46E police_officer
  1F46E+200D+2640+FE0F woman_police_officer
  1F46E+200D+2642+FE0F man_police_officer
  1F470 bride_with_veil
  1F471 blond-haired_person
  1F471+200D+2640+FE0F blond-haired_woman
  1F471+200D+2642+FE0F blond-haired_man
  1F472 man_with_chinese_cap
  1F473 person_wearing_turban
  1F473+200D+2640+FE0F woman_wearing_turban
  1F473+200D+2642+FE0F man_wearing_turban
  1F474 old_man
  1F475 old_woman
  1F476 baby
  1F477 construction_worker
  1F477+200D+2640+FE0F woman_construction_worker
  1F477+200D+2642+FE0F man_construction_worker
  1F478 princess
  1F47C baby_angel
  1F481 person_tipping_hand
  1F481+200D+2640+FE0F woman_tipping_hand
  1F481+200D+2642+FE0F man_tipping_hand
  1F482 guard
  1F482+200D+2640+FE0F woman_guard
  1F482+200D+2642+FE0F man_guard
  1F483 woman_dancing
  1F485 nail_polish
  1F486 person_getting_massage
  1F486+200D+2640+FE0F woman_getting_massage
  1F486+200D+2642+FE0F man_getting_massage
  1F487 person_getting_haircut
  1F487+200D+2640+FE0F woman_getting_haircut
  1F487+200D+2642+FE0F man_getting_haircut
  1F4AA flexed_biceps
  1F574 man_in_suit_levitating
  1F575 detective
  1F575+FE0F+200D+2640+FE0F woman_detective
  1F575+FE0F+200D+2642+FE0F man_detective
  1F57A man_dancing
  1F590 hand_with_fingers_splayed
  1F595 middle_finger
  1F596 vulcan_salute
  1F645 person_gesturing_no
  1F645+200D+2640+FE0F woman_gesturing_no
  1F645+200D+2642+FE0F man_gesturing_no
  1F646 person_gesturing_ok
  1F646+200D+2640+FE0F woman_gesturing_ok
  1F646+200D+2642+FE0F man_gesturing_ok
  1F647 person_bowing
  1F647+200D+2640+FE0F woman_bowing
  1F647+200D+2642+FE0F man_bowing
  1F64B person_raising_hand
  1F64B+200D+2640+FE0F woman_raising_hand
  1F64B+200D+2642+FE0F man_raising_hand
  1F64C raising_hands
  1F64D person_frowning
  1F64D+200D+2640+FE0F woman_frowning
  1F64D+200D+2642+FE0F man_frowning
  1F64E person_pouting
  1F64E+200D+2640+FE0F woman_pouting
  1F64E+200D+2642+FE0F man_pouting
  1F64F folded_hands
  1F6A3 person_rowing_boat
  1F6A3+200D+2640+FE0F woman_rowing_boat
  1F6A3+200D+2642+FE0F man_rowing_boat
  1F6B4 person_biking
  1F6B4+200D+2640+FE0F woman_biking
  1F6B4+200D+2642+FE0F man_biking
  1F6B5 person_mountain_biking
  1F6B5+200D+2640+FE0F woman_mountain_biking
  1F6B5+200D+2642+FE0F man_mountain_biking
  1F6B6 person_walking
  1F6B6+200D+2640+FE0F woman_walking
  1F6B6+200D+2642+FE0F man_walking
  1F6C0 person_taking_bath
  1F6CC person_in_bed
  1F918 sign_of_the_horns
  1F919 call_me_hand
  1F91A raised_back_of_hand
  1F91B left-facing_fist
  1F91C right-facing_fist
  1F91E crossed_fingers
  1F91F love-you_gesture
  1F926 person_facepalming
  1F926+200D+2640+FE0F woman_facepalming
  1F926+200D+2642+FE0F man_facepalming
  1F930 pregnant_woman
  1F931 breast-feeding
  1F932 palms_up_together
  1F933 selfie
  1F934 prince
  1F935 man_in_tuxedo
  1F936 mrs._claus
  1F937 person_shrugging
  1F937+200D+2640+FE0F woman_shrugging
  1F937+200D+2642+FE0F man_shrugging
  1F938 person_cartwheeling
  1F938+200D+2640+FE0F woman_cartwheeling
  1F938+200D+2642+FE0F man_cartwheeling
  1F939 person_juggling
  1F939+200D+2640+FE0F woman_juggling
  1F939+200D+2642+FE0F man_juggling
  1F93D person_playing_water_polo
  1F93D+200D+2640+FE0F woman_playing_water_polo
  1F93D+200D+2642+FE0F man_playing_water_polo
  1F93E person_playing_handball
  1F93E+200D+2640+FE0F woman_playing_handball
  1F93E+200D+2642+FE0F man_playing_handball
  1F9D1 adult
  1F9D2 child
  1F9D3 older_adult
  1F9D4 bearded_person
  1F9D5 woman_with_headscarf
  1F9D6 person_in_steamy_room
  1F9D6+200D+2640+FE0F woman_in_steamy_room
  1F9D6+200D+2642+FE0F man_in_steamy_room
  1F9D7 person_climbing
  1F9D7+200D+2640+FE0F woman_climbing
  1F9D7+200D+2642+FE0F man_climbing
  1F9D8 person_in_lotus_position
  1F9D8+200D+2640+FE0F woman_in_lotus_position
  1F9D8+200D+2642+FE0F man_in_lotus_position
  1F9D9 mage
  1F9D9+200D+2640+FE0F woman_mage
  1F9D9+200D+2642+FE0F man_mage
  1F9DA fairy
  1F9DA+200D+2640+FE0F woman_fairy
  1F9DA+200D+2642+FE0F man_fairy
  1F9DB vampire
  1F9DB+200D+2640+FE0F woman_vampire
  1F9DB+200D+2642+FE0F man_vampire
  1F9DC merperson
  1F9DC+200D+2640+FE0F mermaid
  1F9DC+200D+2642+FE0F merman
  1F9DD elf
  1F9DD+200D+2640+FE0F woman_elf
  1F9DD+200D+2642+FE0F man_elf"

end FrontEnd.Text.Emoji
